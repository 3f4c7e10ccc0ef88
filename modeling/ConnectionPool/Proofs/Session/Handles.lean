import ConnectionPool.Proofs.Session.Effects

/-!
# The life of a handle

A command of a client without caches of its own keeps a new handle under a free name, closes
one, lets go of one, or leaves all handles as they are (`handled_run`). A handle therefore stays
under its name until it is dropped, and a name without a handle gets one only when a command
keeps a new handle under it.
-/

set_option autoImplicit false

namespace ConnectionPool

/-- The name under which a command keeps a new statement. -/
def Command.keeps? : Command → Option Name
  | .connection (.prepare _ _ save) => save
  | .connection (.invoke _ _ _ save) => save
  | .driver (.looseStatement _ save) => save
  | .driver (.prepareStatement _ _ save) => save
  | .driver (.prepareCall _ _ save) => save
  | .driver (.createStatement _ save) => save
  | .cache (.wrapPrepared _ _ _ save) => save
  | .tracked (.facade _ save) => save
  | _ => none

/-- The handle that a command uses or closes. -/
def StatementCommand.uses? : StatementCommand → Option Name
  | .bind name _ _ => some name
  | .clearParameters name => some name
  | .execute name => some name
  | .resultSet name => some name
  | .closeResultSet name => some name
  | .close name => some name
  | _ => none

/-- The handle that a command closes or lets go of. -/
def Command.ends? : Command → Option Name
  | .statement (.close name) => some name
  | .statement (.drop name) => some name
  | .statement (.forceClose name) => some name
  | _ => none

namespace Session

variable {s : Session}

/-- **What becomes of the handles of a client** by a command. -/
inductive Touched (s : Session) (command : Command) : Table (fun _ : Name => Held) → Prop
  | same : Touched s command s.statements
  | kept {name : Name} (held : Held) (hk : command.keeps? = some name)
      (hf : s.statements.get? name = none) : Touched s command (s.statements.insert name held)
  | put {name : Name} {held held' : Held} (he : command.ends? = some name)
      (h : s.statements.get? name = some held)
      (h' : held'.statement = held.statement.afterClose ∨ held'.statement = .spent) :
      Touched s command (s.statements.insert name held')
  | dropped {name : Name} (h : command = .statement (.drop name)) :
      Touched s command (s.statements.erase name)

/-- **What a command does with the handles of a client.** -/
structure Handled (s : Session) (command : Command) (s' : Session) : Prop where
  tracked : s'.tracked = s.tracked
  statements : Touched s command s'.statements

/-- Without tracked statements a command about them has no effect. -/
theorem TrackedEffect.eq_self {command : TrackedCommand} {s' : Session}
    (h : TrackedEffect s command s') (ht : s.tracked = Table.empty) : s' = s := by
  cases h with
  | same => rfl
  | closed hn | forceClosed hn | dropped hn | bound hn | executed hn | delegateClosed hn
  | faced hn =>
      rw [ht] at hn
      exact nomatch hn

theorem run_tracked (h : s.tracked = Table.empty) (command : TrackedCommand) :
    (s.run (.tracked command)).1 = s :=
  (s.trackedEffect command).eq_self h

section Handled

variable {command : Command} {save : Option Name}

theorem handled_keepStatement (save : Option Name) (w : World) (hk : command.keeps? = save)
    (hf : ∀ name, save = some name → s.statements.get? name = none) (statement : Statement)
    (origin : Origin) :
    Handled s command ((s.inWorld w).keepStatement save statement origin) := by
  cases save with
  | none => exact ⟨rfl, .same⟩
  | some name => exact ⟨rfl, .kept _ hk (hf name rfl)⟩

theorem CallEffect.handled {c : ConnectionId} {call : Call} {s' : Session}
    (h : CallEffect s c call save s') (hk : command.keeps? = save)
    (hf : ∀ name, save = some name → s.statements.get? name = none) :
    Handled s command s' := by
  cases h with
  | passed _ _ => exact ⟨rfl, .same⟩
  | @kept w handle _ name hname =>
      cases name with
      | none => exact ⟨rfl, .same⟩
      | some name =>
          have hsave := hname name rfl
          exact ⟨rfl, .kept _ (hk.trans hsave) (hf name hsave)⟩

theorem handled_runCall (c : ConnectionId) (call : Call) (into : Into)
    (hk : command.keeps? = save) (hf : ∀ name, save = some name → s.statements.get? name = none) :
    Handled s command (s.runCall c call into save).1 :=
  (s.callEffect c call into save).handled hk hf

theorem handled_keepDriverStatement (made : World × Except DriverError StatementId)
    (hk : command.keeps? = save) (hf : ∀ name, save = some name → s.statements.get? name = none) :
    Handled s command (s.keepDriverStatement save made).1 := by
  unfold keepDriverStatement
  split
  · exact ⟨rfl, .same⟩
  · exact handled_keepStatement save _ hk hf _ _

theorem handled_runPool (command : PoolCommand) :
    Handled s (.pool command) (s.runPool command).1 := by
  let P : Outcome → Prop := fun outcome => Handled s (.pool command) outcome.1
  have hsame : ∀ reply, P (s, reply) := fun _ => ⟨rfl, .same⟩
  cases command with
  | start save request =>
      refine withFresh_rule (P := P) hsame fun _ => ?_
      split
      · exact ⟨rfl, .same⟩
      · split <;> exact ⟨rfl, .same⟩
  | checkOut pool save =>
      refine withFresh_rule (P := P) hsame fun _ => withPool_rule hsame fun p _ => ?_
      split <;> exact ⟨rfl, .same⟩
  | _ => exact withPool_rule (P := P) hsame fun _ _ => ⟨rfl, .same⟩

theorem handled_runConnection (command : ConnectionCommand) :
    Handled s (.connection command) (s.runConnection command).1 := by
  let P : Outcome → Prop := fun outcome => Handled s (.connection command) outcome.1
  have hsame : ∀ reply, P (s, reply) := fun _ => ⟨rfl, .same⟩
  cases command with
  | share guard save =>
      exact withFresh_rule (P := P) hsame fun _ => withGuard_rule hsame fun _ _ => ⟨rfl, .same⟩
  | unshare shared => exact withShared_rule (P := P) hsame fun _ _ => ⟨rfl, .same⟩
  | prepare guard call save =>
      exact withFreshStatement_rule (P := P) hsame fun hf => withGuard_rule hsame fun _ _ =>
        handled_runCall _ _ _ rfl hf
  | invoke via request into save =>
      exact withFreshStatement_rule (P := P) hsame fun hf => withCall_rule hsame fun _ _ =>
        withTarget_rule hsame fun _ _ => handled_runCall _ _ _ rfl hf
  | isValid guard =>
      exact withGuard_rule (P := P) hsame fun _ _ =>
        handled_runCall _ _ _ rfl fun _ h => nomatch h
  | inspectStore via =>
      refine withConnection_rule (P := P) hsame fun _ _ => ?_
      split <;> exact ⟨rfl, .same⟩
  | inspectConnection via => exact withConnection_rule (P := P) hsame fun _ _ => ⟨rfl, .same⟩
  | _ => exact withGuard_rule (P := P) hsame fun _ _ => ⟨rfl, .same⟩

theorem StatementEffect.handled {command : StatementCommand} {s' : Session}
    (h : StatementEffect s command s') : Handled s (.statement command) s' := by
  cases h with
  | same | bound hn | cleared hn | executed hn | emptied hn => exact ⟨rfl, .same⟩
  | closed hn => exact ⟨rfl, .put rfl hn (Or.inl rfl)⟩
  | dropped hn => exact ⟨rfl, .dropped rfl⟩
  | forceClosed hn ho => exact ⟨rfl, .put rfl hn (Or.inr rfl)⟩

theorem handled_runDriver (command : DriverCommand) :
    Handled s (.driver command) (s.runDriver command).1 := by
  let P : Outcome → Prop := fun outcome => Handled s (.driver command) outcome.1
  have hsame : ∀ reply, P (s, reply) := fun _ => ⟨rfl, .same⟩
  cases command with
  | looseStatement sql save =>
      exact withFreshStatement_rule (P := P) hsame fun hf =>
        handled_keepStatement save _ rfl hf _ _
  | openConnection save => exact withFresh_rule (P := P) hsame fun _ => ⟨rfl, .same⟩
  | isValid name => exact withRaw_rule (P := P) hsame fun _ _ => ⟨rfl, .same⟩
  | close name => exact withRaw_rule (P := P) hsame fun _ _ => ⟨rfl, .same⟩
  | inspectLog statement => exact ⟨rfl, .same⟩
  | _ =>
      exact withFreshStatement_rule (P := P) hsame fun hf => withRaw_rule hsame fun _ _ =>
        handled_keepDriverStatement _ rfl hf

theorem handled_run (hc : ∀ c, command ≠ .cache c) (ht : s.tracked = Table.empty) :
    Handled s command (s.run command).1 := by
  cases command with
  | advance span => exact ⟨rfl, .same⟩
  | switch fault => exact ⟨rfl, .same⟩
  | pool command => exact handled_runPool command
  | connection command => exact handled_runConnection command
  | statement command => exact (s.statementEffect command).handled
  | driver command => exact handled_runDriver command
  | cache command => exact absurd rfl (hc command)
  | tracked command =>
      rw [run_tracked ht]
      exact ⟨rfl, .same⟩

/-- A handle stays under its name until it is dropped. -/
theorem Touched.get?_eq_some {t : Table fun _ : Name => Held} (h : Touched s command t)
    {name : Name} {held : Held} (hn : s.statements.get? name = some held)
    (hdrop : command ≠ .statement (.drop name)) :
    ∃ held', t.get? name = some held' ∧ (held'.statement = held.statement
      ∨ held'.statement = held.statement.afterClose ∨ held'.statement = .spent) := by
  cases h with
  | same => exact ⟨held, hn, Or.inl rfl⟩
  | @kept other _ hk hf =>
      have hne : other ≠ name := by
        rintro rfl
        rw [hf] at hn
        exact nomatch hn
      exact ⟨held, (Table.get?_insert_of_ne _ _ hne).trans hn, Or.inl rfl⟩
  | @put other held₁ held₂ _ h₁ h₂ =>
      by_cases hne : other = name
      · subst hne
        rw [hn] at h₁
        cases h₁
        exact ⟨held₂, Table.get?_insert_self _ _ _, Or.inr h₂⟩
      · exact ⟨held, (Table.get?_insert_of_ne _ _ hne).trans hn, Or.inl rfl⟩
  | @dropped other hd =>
      have hne : name ≠ other := by
        rintro rfl
        exact hdrop hd
      exact ⟨held, by rw [Table.get?_erase, if_neg hne, hn], Or.inl rfl⟩

/-- A handle stays as it is until it is closed or dropped. -/
theorem Touched.get?_of_not_ended {t : Table fun _ : Name => Held} (h : Touched s command t)
    {name : Name} {held : Held} (hn : s.statements.get? name = some held)
    (hend : command.ends? ≠ some name) : t.get? name = some held := by
  cases h with
  | same => exact hn
  | @kept other _ hk hf =>
      have hne : other ≠ name := by
        rintro rfl
        rw [hf] at hn
        exact nomatch hn
      exact (Table.get?_insert_of_ne _ _ hne).trans hn
  | @put other held₁ held₂ he h₁ h₂ =>
      have hne : other ≠ name := by
        rintro rfl
        exact hend he
      exact (Table.get?_insert_of_ne _ _ hne).trans hn
  | @dropped other hd =>
      have hne : name ≠ other := by
        rintro rfl
        exact hend (by rw [hd]; rfl)
      rw [Table.get?_erase, if_neg hne, hn]

/-- A name stands for no handle until one is kept under it. -/
theorem Touched.get?_eq_none {t : Table fun _ : Name => Held} (h : Touched s command t)
    {name : Name} (hn : s.statements.get? name = none) (hkeep : command.keeps? ≠ some name) :
    t.get? name = none := by
  cases h with
  | same => exact hn
  | @kept other _ hk hf =>
      have hne : other ≠ name := by
        rintro rfl
        exact hkeep hk
      exact (Table.get?_insert_of_ne _ _ hne).trans hn
  | @put other held₁ held₂ _ h₁ h₂ =>
      have hne : other ≠ name := by
        rintro rfl
        rw [hn] at h₁
        exact nomatch h₁
      exact (Table.get?_insert_of_ne _ _ hne).trans hn
  | dropped _ =>
      rw [Table.get?_erase, hn]
      split <;> rfl

end Handled

end Session

end ConnectionPool
