import ConnectionPool.Proofs.Calls.Inquiring
import ConnectionPool.Proofs.Session.Naming

/-!
# Which commands make calls

`Session.inquiry?` is the call that a command makes, if it makes one, and `Session.inquiries` lists
the calls of a run. Three commands make calls, on a connection that the client has a name for
(`Asks`); each goes on with what the chain of the connection answers.
-/

set_option autoImplicit false

namespace ConnectionPool

namespace Session

/-! ## Calls -/

/-- **The call that a command makes**, if the client holds what it names and the name for the answer
is free. -/
def inquiry? (s : Session) : Command → Option Inquiry
  | .connection (.prepare guard call save) =>
      if save.any s.statements.contains then none
      else (s.guards.get? guard).map fun c => ⟨s.world, c, call⟩
  | .connection (.isValid guard) =>
      (s.guards.get? guard).map fun c => ⟨s.world, c, ⟨.isValid, []⟩⟩
  | .connection (.invoke via request _ save) =>
      if save.any s.statements.contains then none
      else request.read.toOption.bind fun call =>
        (s.connection? via).map fun c => ⟨s.world, c, call⟩
  | _ => none

/-- **The calls of a run**, in their order. -/
def inquiries : Session → List Command → List Inquiry
  | _, [] => []
  | s, command :: rest => (s.inquiry? command).toList ++ inquiries (s.run command).1 rest

/-- Whether a command makes a call, and on which connection. -/
inductive Asks (s : Session) (command : Command) : Prop
  /-- It makes a call, whatever becomes of the answer. -/
  | call (c : ConnectionId) (call : Call) (into : Into) (save : Option Name)
      (named : ∃ via, s.connection? via = some c)
      (asked : s.inquiry? command = some ⟨s.world, c, call⟩)
      (run : (s.run command).1 = (s.runCall c call into save).1)
  /-- It makes none, and is not carried out. -/
  | idle (silent : s.inquiry? command = none) (run : (s.run command).1 = s)

variable {s : Session} {command : Command} {q : Inquiry}

theorem withFreshStatement_eq (s : Session) (save : Option Name) (f : Unit → Outcome) :
    (save.any s.statements.contains = false ∧ s.withFreshStatement save f = f ())
      ∨ save.any s.statements.contains = true ∧ (s.withFreshStatement save f).1 = s := by
  cases save with
  | none => exact Or.inl ⟨rfl, rfl⟩
  | some name =>
      rw [Option.any_some, withFreshStatement, withFresh]
      cases s.statements.contains name with
      | true => exact Or.inr ⟨rfl, rfl⟩
      | false => exact Or.inl ⟨rfl, rfl⟩

/-- The reply apart, it does not matter by which name a connection is meant. -/
theorem withTarget_eq (s : Session) (via : Via) (f : ConnectionId → Outcome) :
    (s.withTarget via f).1 = match s.connection? via with
      | some c => (f c).1
      | none => s := by
  cases via with
  | guard name =>
      simp only [withTarget, withGuard, connection?]
      cases s.guards.get? name <;> rfl
  | shared name =>
      simp only [withTarget, withShared, connection?]
      cases s.shared.get? name <;> rfl

/-- A command that goes on with a connection makes its call if there is one of that name. -/
theorem asks_of_target (via : Via) (call : Call) {into : Into} {save : Option Name}
    (hasked : s.inquiry? command = (s.connection? via).map fun c => ⟨s.world, c, call⟩)
    (hrun : (s.run command).1 = (s.withTarget via fun c => s.runCall c call into save).1) :
    s.Asks command := by
  rw [withTarget_eq] at hrun
  cases hc : s.connection? via with
  | none =>
      rw [hc] at hasked hrun
      exact .idle hasked hrun
  | some c =>
      rw [hc] at hasked hrun
      exact .call c call into save ⟨via, hc⟩ hasked hrun

theorem asks_prepare (s : Session) (guard : Name) (call : Call) (save : Option Name) :
    s.Asks (.connection (.prepare guard call save)) := by
  obtain ⟨hfree, hrun⟩ | ⟨htaken, hrun⟩ := s.withFreshStatement_eq save fun _ =>
    s.withGuard guard fun c => s.runCall c call .statement save
  · refine asks_of_target (.guard guard) call ?_ (congrArg Prod.fst hrun)
    simp only [inquiry?, hfree, Bool.false_eq_true, if_false]
    rfl
  · refine .idle ?_ hrun
    simp only [inquiry?, htaken, if_true]

theorem asks_isValid (s : Session) (guard : Name) : s.Asks (.connection (.isValid guard)) :=
  asks_of_target (.guard guard) ⟨.isValid, []⟩ rfl rfl

theorem asks_invoke (s : Session) (via : Via) (request : CallRequest) (into : Into)
    (save : Option Name) : s.Asks (.connection (.invoke via request into save)) := by
  obtain ⟨hfree, hrun⟩ | ⟨htaken, hrun⟩ := s.withFreshStatement_eq save fun _ =>
    s.withCall request fun call => s.withTarget via fun c => s.runCall c call into save
  · have hasked : s.inquiry? (.connection (.invoke via request into save))
        = request.read.toOption.bind fun call =>
            (s.connection? via).map fun c => ⟨s.world, c, call⟩ := by
      simp only [inquiry?, hfree, Bool.false_eq_true, if_false]
    have hrun : (s.run (.connection (.invoke via request into save))).1
        = (s.withCall request fun call => s.withTarget via fun c =>
            s.runCall c call into save).1 := congrArg Prod.fst hrun
    rw [withCall] at hrun
    cases hr : request.read with
    | error error =>
        rw [hr] at hasked hrun
        exact .idle hasked hrun
    | ok call =>
        rw [hr] at hasked hrun
        exact asks_of_target via call hasked hrun
  · refine .idle ?_ hrun
    simp only [inquiry?, htaken, if_true]

theorem asks_of_inquiry? (h : s.inquiry? command = some q) : s.Asks command := by
  unfold inquiry? at h
  split at h
  · exact s.asks_prepare _ _ _
  · exact s.asks_isValid _
  · exact s.asks_invoke _ _ _ _
  · cases h

end Session

end ConnectionPool
