import ConnectionPool.Proofs.Client.Alike
import ConnectionPool.Session.Run

/-!
# What a client can tell of a statement

A client that holds a handle can tell whether the statement is closed, what is bound to it, and
whether a result set of it is open: this is the look of the handle. What can be done with a
handle changes its look, and is answered, in a way that depends on the look and the driver's
faults alone (`look?_use`, `run_use`); so it makes no difference how the handle reaches its
statement.
-/

set_option autoImplicit false

namespace ConnectionPool

/-- **What can be told of an open statement**: what is bound to it, and whether its result set
is open. -/
structure Look where
  parameters : List (Option Arg)
  reading : Bool
  deriving DecidableEq, Repr

namespace Look

/-- A statement just prepared. -/
def fresh : Look := ⟨[], false⟩

end Look

/-- The look of a statement, if it is open. -/
def PhysicalStatement.look? (statement : PhysicalStatement) : Option Look :=
  if statement.closed then none
  else some ⟨statement.parameters, decide (statement.resultSet = some .opened)⟩

/-- The look of the statement behind a handle, if there is one and it is open. -/
def World.look? (w : World) (handle : Statement) : Option Look :=
  handle.target?.bind fun id => (w.driver.statement id).look?

theorem PhysicalStatement.Rested.look? {statement : PhysicalStatement} (h : statement.Rested) :
    statement.look? = some Look.fresh := by
  obtain ⟨hopen, hparameters, hresult⟩ := h
  simp [PhysicalStatement.look?, Look.fresh, hopen, hparameters, hresult]

namespace World

variable {w : World} {handle : Statement} {id : StatementId}

theorem look?_eq (h : handle.target? = some id) :
    w.look? handle = (w.driver.statement id).look? := by
  rw [look?, h]
  rfl

theorem look?_of_spent (h : handle.target? = none) : w.look? handle = none := by
  rw [look?, h]
  rfl

theorem isClosed_eq (w : World) (handle : Statement) :
    w.isClosed handle = (w.look? handle).isNone := by
  unfold isClosed
  cases h : handle.target? with
  | none => rw [look?_of_spent h]; rfl
  | some id =>
      rw [look?_eq h, PhysicalStatement.look?]
      simp only
      cases (w.driver.statement id).closed with
      | true => rfl
      | false => rfl

end World

/-! ## Uses -/

/-- What a use does to the look of an open statement. -/
def Usage.onLook (faults : Faults) : Usage → Look → Look
  | .bind 0 _, look => look
  | .bind (index + 1) value, look =>
      { look with parameters := placeParameter look.parameters index value }
  | .execute, look => { look with reading := true }
  | .clearParameters, look => if faults.clearing then look else { look with parameters := [] }
  | .closeResultSet, look =>
      if faults.resultSetClosing then look else { look with reading := false }

/-- How a use is answered. -/
def Usage.reply (faults : Faults) : Usage → Option Look → Reply
  | .closeResultSet, none => .nothing
  | _, none => .driverError Driver.statementClosed
  | .bind 0 _, some _ => .driverError Driver.positionFromOne
  | .bind (_ + 1) _, some _ => .done
  | .execute, some _ => .count 1
  | .clearParameters, some _ =>
      if faults.clearing then .driverError Driver.clearingFailed else .done
  | .closeResultSet, some _ =>
      if faults.resultSetClosing then .driverError Driver.resultSetClosingFailed else .done

/-- The command that asks for a use. -/
def Usage.command (name : Name) : Usage → StatementCommand
  | .bind position value => .bind name position value
  | .execute => .execute name
  | .clearParameters => .clearParameters name
  | .closeResultSet => .closeResultSet name

theorem PhysicalStatement.look?_of_open {statement : PhysicalStatement}
    (h : statement.closed = false) :
    statement.look?
      = some ⟨statement.parameters, decide (statement.resultSet = some .opened)⟩ := by
  rw [look?, h]
  rfl

namespace Driver

variable (driver : Driver) (id : StatementId)

/-- The look of an open statement that is changed, and stays open. -/
theorem look?_updateStatement {f : PhysicalStatement → PhysicalStatement}
    (hc : (driver.statement id).closed = false) (hf : (f (driver.statement id)).closed = false) :
    ((driver.updateStatement id f).statement id).look?
      = some ⟨(f (driver.statement id)).parameters,
        decide ((f (driver.statement id)).resultSet = some .opened)⟩ := by
  rw [statement_updateStatement, if_pos ⟨rfl, driver.known_of_open hc⟩]
  exact PhysicalStatement.look?_of_open hf

/-- A use of a closed statement leaves it closed. -/
theorem look?_use_of_closed (usage : Usage) (h : (driver.statement id).closed = true) :
    ((driver.use usage id).statement id).look? = none := by
  rw [PhysicalStatement.look?, closed_use, h, if_pos rfl]

/-- **What a use does to the look of a statement.** -/
theorem look?_use (usage : Usage) :
    ((driver.use usage id).statement id).look?
      = (driver.statement id).look?.map (usage.onLook driver.faults) := by
  cases hc : (driver.statement id).closed with
  | true =>
      rw [driver.look?_use_of_closed id usage hc, PhysicalStatement.look?, hc, if_pos rfl]
      rfl
  | false =>
      have hold := PhysicalStatement.look?_of_open hc
      rw [hold, Option.map_some]
      cases usage with
      | bind position value =>
          cases position with
          | zero =>
              simp only [use, Driver.bind, hc, Bool.false_eq_true, if_false]
              exact hold
          | succ index =>
              simp only [use, Driver.bind, hc, Bool.false_eq_true, if_false]
              exact driver.look?_updateStatement id hc hc
      | execute =>
          simp only [use, Driver.execute, hc, Bool.false_eq_true, if_false]
          exact driver.look?_updateStatement id hc hc
      | clearParameters =>
          simp only [use, Driver.clearParameters, hc, Bool.false_eq_true, if_false, Usage.onLook]
          cases driver.faults.clearing with
          | true => exact hold
          | false => exact driver.look?_updateStatement id hc hc
      | closeResultSet =>
          simp only [use, Driver.closeResultSet, Usage.onLook]
          cases driver.faults.resultSetClosing with
          | true => exact hold
          | false =>
              by_cases hr : (driver.statement id).resultSet = some .opened
              · simp only [hr, Bool.false_eq_true, if_false, if_true]
                exact driver.look?_updateStatement id hc hc
              · simp only [hr, Bool.false_eq_true, if_false, decide_false]
                rw [hold]
                simp [hr]

end Driver

namespace World

/-- The world after a use of a statement through a handle. -/
def use (w : World) (usage : Usage) (handle : Statement) : World :=
  match handle.target? with
  | none => w
  | some id => { w with driver := w.driver.use usage id }

variable (w : World) (handle : Statement)

theorem look?_use (usage : Usage) :
    (w.use usage handle).look? handle
      = (w.look? handle).map (usage.onLook w.driver.faults) := by
  unfold use
  cases h : handle.target? with
  | none =>
      rw [look?_of_spent h]
      rfl
  | some id =>
      rw [look?_eq h, look?_eq h]
      exact w.driver.look?_use id usage

/-- What is reached by another handle is left alone. -/
theorem look?_use_of_ne (usage : Usage) {other : Statement}
    (h : ∀ id, handle.target? = some id → other.target? ≠ some id) :
    (w.use usage handle).look? other = w.look? other := by
  unfold use
  cases ht : handle.target? with
  | none => rfl
  | some id =>
      cases ho : other.target? with
      | none => rw [look?_of_spent ho, look?_of_spent ho]
      | some id' =>
          rw [look?_eq ho, look?_eq ho]
          refine congrArg PhysicalStatement.look? (w.driver.statement_use_of_ne usage ?_)
          rintro rfl
          exact h id ht ho

theorem unseen_useThrough (usage : Usage) : w.Unseen (w.use usage handle) := by
  unfold use
  split
  · exact .refl w
  · exact (w.deeds_use usage _).unseen

end World

/-! ## Answers to uses -/

namespace PhysicalStatement

variable {statement : PhysicalStatement}

theorem closed_of_look? (h : statement.look? = none) : statement.closed = true := by
  rw [look?] at h
  split at h
  · assumption
  · exact nomatch h

theorem look?_eq_some {look : Look} (h : statement.look? = some look) :
    statement.closed = false ∧ (look.reading = true ↔ statement.resultSet = some .opened) := by
  rw [look?] at h
  split at h
  · exact nomatch h
  · next hc =>
      cases h
      exact ⟨by simpa using hc, by simp⟩

end PhysicalStatement

namespace World

variable {w : World} {handle : Statement}

/-- What is done through a handle that reaches an open statement, or one that is closed, or
none. -/
theorem onTarget_cases {α : Type} (w : World) (handle : Statement)
    (action : StatementId → Driver → Driver × Except DriverError α) :
    (handle.target? = none ∧ w.look? handle = none
      ∧ w.onTarget handle action = (w, .error Driver.statementClosed))
    ∨ ∃ id, handle.target? = some id ∧ w.look? handle = (w.driver.statement id).look?
      ∧ w.onTarget handle action
        = ({ w with driver := (action id w.driver).1 }, (action id w.driver).2) := by
  cases h : handle.target? with
  | none => exact Or.inl ⟨rfl, look?_of_spent h, by simp [onTarget, h]⟩
  | some id => exact Or.inr ⟨id, rfl, look?_eq h, by simp [onTarget, h, onDriver]⟩

theorem bind_eq (w : World) (handle : Statement) (position : Nat) (value : Arg) :
    (w.bind handle position value).1 = w.use (.bind position value) handle
      ∧ Reply.ofDriver (w.bind handle position value).2
        = (Usage.bind position value).reply w.driver.faults (w.look? handle) := by
  obtain ⟨ht, hlook, h⟩ | ⟨id, ht, hlook, h⟩ :=
    w.onTarget_cases handle fun id driver => driver.bind id position value
  · rw [World.bind, h, use, ht, hlook]
    cases position <;> exact ⟨rfl, rfl⟩
  · rw [World.bind, h, use, ht, hlook]
    refine ⟨rfl, ?_⟩
    cases hl : (w.driver.statement id).look? with
    | none =>
        simp only [Driver.bind, PhysicalStatement.closed_of_look? hl, if_true]
        cases position <;> rfl
    | some look =>
        simp only [Driver.bind, (PhysicalStatement.look?_eq_some hl).1, Bool.false_eq_true,
          if_false]
        cases position <;> rfl

theorem execute_eq (w : World) (handle : Statement) :
    (w.execute handle).1 = w.use .execute handle
      ∧ (w.execute handle).2 = (match w.look? handle with
        | none => .error Driver.statementClosed
        | some _ => .ok 1) := by
  obtain ⟨ht, hlook, h⟩ | ⟨id, ht, hlook, h⟩ :=
    w.onTarget_cases handle fun id driver => driver.execute id
  · rw [execute, h, use, ht, hlook]
    exact ⟨rfl, rfl⟩
  · rw [execute, h, use, ht, hlook]
    refine ⟨rfl, ?_⟩
    cases hl : (w.driver.statement id).look? with
    | none => simp only [Driver.execute, PhysicalStatement.closed_of_look? hl, if_true]
    | some look =>
        simp only [Driver.execute, (PhysicalStatement.look?_eq_some hl).1, Bool.false_eq_true,
          if_false]

theorem clearParameters_eq (w : World) (handle : Statement) :
    (w.clearParameters handle).1 = w.use .clearParameters handle
      ∧ Reply.ofDriver (w.clearParameters handle).2
        = Usage.clearParameters.reply w.driver.faults (w.look? handle) := by
  obtain ⟨ht, hlook, h⟩ | ⟨id, ht, hlook, h⟩ :=
    w.onTarget_cases handle fun id driver => driver.clearParameters id
  · rw [clearParameters, h, use, ht, hlook]
    exact ⟨rfl, rfl⟩
  · rw [clearParameters, h, use, ht, hlook]
    refine ⟨rfl, ?_⟩
    cases hl : (w.driver.statement id).look? with
    | none =>
        simp only [Driver.clearParameters, PhysicalStatement.closed_of_look? hl, if_true]
        rfl
    | some look =>
        simp only [Driver.clearParameters, (PhysicalStatement.look?_eq_some hl).1,
          Bool.false_eq_true, if_false, Usage.reply]
        split <;> rfl

/-- Closing a result set that is not open does nothing. -/
theorem closeResultSet_fst (w : World) (handle : Statement) :
    (w.closeResultSet handle).1 = w.use .closeResultSet handle := by
  unfold closeResultSet use
  cases ht : handle.target? with
  | none => rfl
  | some id =>
      have hresult : w.resultSet? handle = (w.driver.statement id).resultSet := by
        simp [resultSet?, ht]
      rw [hresult]
      cases hr : (w.driver.statement id).resultSet with
      | none =>
          simp only [Driver.use, Driver.closeResultSet, hr]
          split <;> rfl
      | some state => rfl

/-- A result set that is open is closed unless the driver fails to. -/
theorem closeResultSet_snd {look : Look} (hl : w.look? handle = some look)
    (hr : look.reading = true) :
    (w.closeResultSet handle).2.map Reply.ofDriver
      = some (Usage.closeResultSet.reply w.driver.faults (some look)) := by
  cases ht : handle.target? with
  | none =>
      rw [look?_of_spent ht] at hl
      exact nomatch hl
  | some id =>
      rw [look?_eq ht] at hl
      have hopen := (PhysicalStatement.look?_eq_some hl).2.mp hr
      have hresult : w.resultSet? handle = some .opened := by simp [resultSet?, ht, hopen]
      simp only [closeResultSet, ht, hresult, onDriver, Driver.closeResultSet, hopen, Usage.reply,
        if_true]
      split <;> rfl

/-- Whether a result set is open is part of the look of a statement. -/
theorem resultSet?_eq_opened_iff (hs : w.driver.Settled) :
    w.resultSet? handle = some .opened
      ↔ ∃ look, w.look? handle = some look ∧ look.reading = true := by
  cases ht : handle.target? with
  | none => simp [resultSet?, ht, look?_of_spent ht]
  | some id =>
      have hresult : w.resultSet? handle = (w.driver.statement id).resultSet := by
        simp [resultSet?, ht]
      rw [look?_eq ht, hresult]
      cases hl : (w.driver.statement id).look? with
      | none => simp [hs id (PhysicalStatement.closed_of_look? hl)]
      | some look =>
          simp only [Option.some.injEq, exists_eq_left']
          exact (PhysicalStatement.look?_eq_some hl).2.symm

/-! ## Closing -/

/-- A handle that was closed looks closed. -/
theorem look?_close (w : World) (handle : Statement) :
    (close handle w).1.look? handle.afterClose = none := by
  cases handle with
  | physical id =>
      show ((w.driver.closeStatement id).1.statement id).look? = none
      rw [PhysicalStatement.look?, Driver.closed_closeStatement]
      simp
  | spent => rfl
  | facade key k inner => rfl

/-- Closing a handle succeeds, unless the driver is to fail for the text of its statement. -/
theorem close_result (w : World) (handle : Statement) :
    (close handle w).2 = .ok () ∨ ∃ sql ∈ w.driver.faults.statementClosing,
      (close handle w).2 = .error (Driver.statementClosingFailed sql) := by
  cases handle with
  | physical id =>
      have hclose : (close (.physical id) w).2 = (w.driver.closeStatement id).2 := rfl
      rw [hclose, Driver.closeStatement]
      split
      · exact Or.inl rfl
      · split
        · next hm => exact Or.inr ⟨_, by simpa using hm, rfl⟩
        · exact Or.inl rfl
  | spent => exact Or.inl rfl
  | facade key k inner =>
      left
      unfold close
      split <;> rfl

end World

end ConnectionPool
