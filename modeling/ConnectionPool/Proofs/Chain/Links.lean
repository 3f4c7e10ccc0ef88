import ConnectionPool.Proofs.Chain.Unrecorded
import ConnectionPool.Proofs.Client.Unseen

/-!
# What one link does with a call

A link of a chain does one of two things with a call that comes in. It answers the call by itself,
and then it makes no difference what is behind it (`Interceptor.AnswersWith`); or the links behind
it get one call, and what they answer is settled (`Interceptor.HandsOn`). Only a cache settles
anything, and only statements: it puts a facade before them (`World.settle`).

A link records nothing itself. If no facade can fail at it, the driver does nothing before the call
is handed on, and the answer is the one from behind the link up to facades.
-/

set_option autoImplicit false

namespace ConnectionPool

/-- The call with so many more flags. -/
def Call.flagged (call : Call) (n : Nat) : Call :=
  { call with args := call.args ++ List.replicate n appendedFlag }

theorem Call.flagged_zero (call : Call) : call.flagged 0 = call := by
  rw [flagged, List.replicate_zero, List.append_nil]

theorem Call.flagged_flagged (call : Call) (m n : Nat) :
    (call.flagged m).flagged n = call.flagged (m + n) := by
  simp only [flagged, List.append_assoc, List.replicate_append_replicate]

/-- A handle without the facades before it. -/
def Statement.bared : Statement → Statement
  | facade _ _ inner => inner.bared
  | handle => handle

/-- An answer without the facades before a statement. -/
def Response.bared : Response → Response
  | statement handle => statement handle.bared
  | truth value => truth value

namespace Interceptor

/-- The link adds a flag to the calls of an operation. -/
def appends (interceptor : Interceptor) (method : Method) : Bool :=
  match interceptor.role with
  | .appendFlag scope => scope.covers method
  | _ => false

/-- What the link hands on of a call, where it hands it on. -/
def handed (interceptor : Interceptor) (call : Call) : Call :=
  if interceptor.appends call.method then call.flagged 1 else call

theorem method_handed (interceptor : Interceptor) (call : Call) :
    (interceptor.handed call).method = call.method := by
  unfold handed
  split
  · rfl
  · rfl

theorem handed_flagged (interceptor : Interceptor) (call : Call) (n : Nat) :
    (interceptor.handed call).flagged n
      = call.flagged (n + if interceptor.appends call.method then 1 else 0) := by
  unfold handed
  split
  · rw [call.flagged_flagged, Nat.add_comm]
  · rfl

/-- **The link answers a call**: its role is to answer or to reject it, or it is a cache that has a
statement for it. -/
def Answers (interceptor : Interceptor) (call : Call) (w : World) : Prop :=
  match interceptor.role with
  | .answerTruth scope _ => scope.covers call.method = true
  | .answerStatement scope => scope.covers call.method = true
  | .reject scope => scope.covers call.method = true
  | .cache k => call.method.prepares = true ∧ (w.hit? k call).isSome = true
  | _ => False

/-- **The link passes a call on unchanged**: it makes no difference to what is behind it. -/
def Passes (interceptor : Interceptor) (call : Call) : Prop :=
  ∀ next w, World.handle interceptor next call w = next call w

/-- No facade of the link can fail. -/
def Sure (interceptor : Interceptor) (w : World) : Prop :=
  ∀ k, interceptor.cache? = some k → ¬ w.Breaks k 0

theorem Sure.congr {interceptor : Interceptor} {v w : World} (h : interceptor.Sure w)
    (hf : ∀ k, (v.cache k).fallible = (w.cache k).fallible) (hw : v.wrapFaults = w.wrapFaults) :
    interceptor.Sure v := by
  intro k hk hbreaks
  refine h k hk ?_
  rwa [World.Breaks, hf, hw] at hbreaks

end Interceptor

namespace World

/-- A statement is given a facade, or that fails. -/
theorem wrap_or_breaks (w : World) (k : CacheId) (tracked : Tracked) :
    w.wrap k tracked = (w, .ok tracked.facade)
      ∨ w.Breaks k 0 ∧ w.wrap k tracked = ((w.wrap k tracked).1, .error wrapFailed) := by
  by_cases hbreaks : w.Breaks k 0
  · rcases w.wrap_cases k tracked with h | ⟨due, h⟩
    · exact Or.inl h
    · exact Or.inr ⟨hbreaks, by rw [h]⟩
  · exact Or.inl (wrap_of_not_breaks hbreaks tracked)

/-- **What a link makes of the outcome from behind it**: a cache puts a facade before a statement
that was prepared. -/
def settle (interceptor : Interceptor) (call : Call) (outcome : World × Answer) : World × Answer :=
  match interceptor.role with
  | .cache k =>
      if call.method.prepares then fill k (fun _ _ => outcome) call outcome.1 else outcome
  | _ => outcome

end World

namespace Interceptor

open World

variable {interceptor : Interceptor} {call : Call} {w : World}

/-! ## The two ways of a call -/

/-- **The link answers a call by itself.** -/
structure AnswersWith (interceptor : Interceptor) (call : Call) (w : World)
    (outcome : World × Answer) : Prop where
  answers : interceptor.Answers call w
  /-- It makes no difference what is behind the link. -/
  handles : ∀ next, handle interceptor next call w = outcome
  journal : outcome.1.journal = w.journal

/-- **The link hands a call on**, and the world is `v` by then. -/
structure HandsOn (interceptor : Interceptor) (call : Call) (w v : World) : Prop where
  keeps : ¬ interceptor.Answers call w
  /-- What is behind the link gets one call. -/
  handles : ∀ next, handle interceptor next call w
    = settle interceptor call (next (interceptor.handed call) v)
  journal : v.journal = w.journal
  unseen : w.Unseen v
  /-- The driver does nothing unless a facade fails. -/
  spares : interceptor.Sure w → v.driver = w.driver ∧ v.wrapFaults = w.wrapFaults

/-- A link can hand a call on at once. -/
theorem HandsOn.at_once (hkeeps : ¬ interceptor.Answers call w)
    (hhandles : ∀ next, handle interceptor next call w
      = settle interceptor call (next (interceptor.handed call) w)) :
    interceptor.HandsOn call w w where
  keeps := hkeeps
  handles := hhandles
  journal := rfl
  unseen := .refl w
  spares _ := ⟨rfl, rfl⟩

/-- A cache answers a call with what is parked for it, or hands it on after the look-up. -/
theorem cases_of_cache (name : String) (k : CacheId) (hp : call.method.prepares = true)
    (w : World) :
    (∃ outcome, AnswersWith ⟨name, .cache k⟩ call w outcome)
      ∨ ∃ v, HandsOn ⟨name, .cache k⟩ call w v := by
  obtain ⟨looked, hfetch, hlooks⟩ := w.looks_fetch k call
  have hunseen : w.Unseen looked := by
    have hdeeds := (w.deeds_fetch k call).unseen
    rwa [hfetch] at hdeeds
  have hlooked : looked.driver = w.driver ∧ looked.wrapFaults = w.wrapFaults := by
    rw [hlooks.rest]
    exact ⟨rfl, rfl⟩
  cases hfinds : w.finds? k call with
  | none =>
      -- the links behind get the call after a look-up in vain
      rw [hfinds] at hfetch
      refine Or.inr ⟨looked, ?_, ?_, hlooks.journal, hunseen, fun _ => hlooked⟩
      · rintro ⟨-, hhit⟩
        rw [hit?, hfetch] at hhit
        exact absurd hhit Bool.false_ne_true
      · intro next
        simp only [handle, serve, settle, hp, if_true, hfetch]
        rfl
  | some tracked =>
      rw [hfinds] at hfetch
      obtain hwrap | ⟨hbreaks, hwrap⟩ := looked.wrap_or_breaks k tracked
      · refine Or.inl ⟨(looked, .ok (.statement tracked.facade)), ⟨hp, ?_⟩, ?_, hlooks.journal⟩
        · rw [hit?, hfetch]
          simp only [hwrap, Option.isSome_some]
        · intro next
          simp only [handle, serve, hp, if_true, hfetch, hwrap]
      · -- the statement cannot be handed out, and counts as missing
        have herror : (looked.wrap k tracked).2 = .error wrapFailed := (Prod.ext_iff.mp hwrap).2
        refine Or.inr ⟨(looked.wrap k tracked).1, ?_, ?_, ?_, ?_, ?_⟩
        · rintro ⟨-, hhit⟩
          rw [hit?, hfetch] at hhit
          simp only [herror] at hhit
          exact absurd hhit Bool.false_ne_true
        · intro next
          simp only [handle, serve, settle, hp, if_true, hfetch]
          rw [hwrap]
          rfl
        · exact (looked.journal_wrap k tracked).trans hlooks.journal
        · exact hunseen.trans (looked.deeds_wrap k tracked).unseen
        · intro hsure
          exact absurd hbreaks (hsure.congr hunseen.fallible hlooked.2 k rfl)

/-- **A link answers a call by itself, or hands it on.** -/
theorem handle_cases (interceptor : Interceptor) (call : Call) (w : World) :
    (∃ outcome, interceptor.AnswersWith call w outcome) ∨ ∃ v, interceptor.HandsOn call w v := by
  obtain ⟨name, role⟩ := interceptor
  -- a role with a scope does what it does where the scope covers the operation, and passes on else
  cases role with
  | pass | trace => exact Or.inr ⟨w, .at_once id fun next => rfl⟩
  | answerTruth scope value =>
      by_cases hcov : scope.covers call.method = true
      · refine Or.inl ⟨(w, .ok (.truth value)), hcov, fun next => ?_, rfl⟩
        simp only [handle, hcov, if_true]
      · refine Or.inr ⟨w, .at_once hcov fun next => ?_⟩
        simp only [handle, hcov]
        rfl
  | answerStatement scope =>
      by_cases hcov : scope.covers call.method = true
      · refine Or.inl ⟨({ w with driver := (w.driver.looseStatement "answered").1 },
          .ok (.statement (.physical (w.driver.looseStatement "answered").2))), hcov,
          fun next => ?_, rfl⟩
        simp only [handle, hcov, if_true, onDriver]
      · refine Or.inr ⟨w, .at_once hcov fun next => ?_⟩
        simp only [handle, hcov]
        rfl
  | reject scope =>
      by_cases hcov : scope.covers call.method = true
      · refine Or.inl ⟨(w, .error (.interceptor name (.driver rejected))), hcov,
          fun next => ?_, rfl⟩
        simp only [handle, hcov, if_true]
      · refine Or.inr ⟨w, .at_once hcov fun next => ?_⟩
        simp only [handle, hcov]
        rfl
  | appendFlag scope =>
      refine Or.inr ⟨w, .at_once id fun next => ?_⟩
      by_cases hcov : scope.covers call.method = true
      · simp only [handle, handed, appends, hcov, if_true]
        rfl
      · simp only [handle, handed, appends, hcov]
        rfl
  | cache k =>
      by_cases hp : call.method.prepares = true
      · exact cases_of_cache name k hp w
      · refine Or.inr ⟨w, .at_once (fun h => hp h.1) fun next => ?_⟩
        simp only [handle, serve, settle, hp]
        rfl

end Interceptor

/-! ## Settling -/

namespace World

variable {interceptor : Interceptor} {v : World} {answer : Answer}

/-- **What is no statement passes as it is.** -/
theorem settle_of_ne (h : ∀ handle, answer ≠ .ok (.statement handle)) (interceptor : Interceptor)
    (call : Call) (w : World) : settle interceptor call (w, answer) = (w, answer) := by
  unfold settle
  split
  · split
    · exact fill_of_ne h
    · rfl
  · rfl

/-- A statement is given a facade by a cache, or closed if that fails. -/
theorem settle_cases (interceptor : Interceptor) (call : Call) (w : World) (answer : Answer) :
    settle interceptor call (w, answer) = (w, answer)
      ∨ ∃ k handle, interceptor.cache? = some k ∧ answer = .ok (.statement handle)
        ∧ (settle interceptor call (w, answer)
            = (w, .ok (.statement (.facade ((w.cache k).policy.keyFor call) k handle)))
          ∨ w.Breaks k 0 ∧ settle interceptor call (w, answer)
            = ((w.wrapPrepared k handle call).1, .error (.driver wrapFailed))) := by
  obtain ⟨name, role⟩ := interceptor
  cases role with
  | pass | trace | answerTruth _ _ | answerStatement _ | reject _ | appendFlag _ => exact Or.inl rfl
  | cache k =>
      by_cases hp : call.method.prepares = true
      · rcases answer with error | ⟨handle | value⟩
        · exact Or.inl (settle_of_ne (by rintro _ ⟨⟩) _ call w)
        · refine Or.inr ⟨k, handle, rfl, rfl, ?_⟩
          obtain hwrap | ⟨hbreaks, hwrap⟩ :=
            w.wrap_or_breaks k (track k ((w.cache k).policy.keyFor call) handle)
          · refine Or.inl ?_
            simp only [settle, fill, hp, if_true, wrapPrepared, hwrap]
            rfl
          · refine Or.inr ⟨hbreaks, ?_⟩
            simp only [settle, fill, hp, if_true, wrapPrepared]
            rw [hwrap]
        · exact Or.inl (settle_of_ne (by rintro _ ⟨⟩) _ call w)
      · refine Or.inl ?_
        simp only [settle, hp]
        rfl

theorem journal_settle (interceptor : Interceptor) (call : Call) (outcome : World × Answer) :
    (settle interceptor call outcome).1.journal = outcome.1.journal := by
  obtain ⟨w, answer⟩ := outcome
  obtain h | ⟨k, handle, -, -, h | ⟨-, h⟩⟩ := settle_cases interceptor call w answer
  · rw [h]
  · rw [h]
  · rw [h]
    exact journal_wrap _ k _

/-- Where no facade can fail, a statement gets at most a facade. -/
theorem settle_of_sure (h : interceptor.Sure v) (call : Call) (answer : Answer) :
    ∃ settled, settle interceptor call (v, answer) = (v, settled)
      ∧ settled.map Response.bared = answer.map Response.bared := by
  obtain hs | ⟨k, handle, hk, ha, hs | ⟨hbreaks, -⟩⟩ := settle_cases interceptor call v answer
  · exact ⟨answer, hs, rfl⟩
  · refine ⟨_, hs, ?_⟩
    rw [ha]
    rfl
  · exact absurd hbreaks (h k hk)

end World

end ConnectionPool
