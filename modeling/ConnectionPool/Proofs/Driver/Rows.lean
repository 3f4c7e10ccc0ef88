import ConnectionPool.Driver.Statement
import ConnectionPool.Proofs.World.Fields

/-!
# The driver's statements under its operations

What each operation of the driver does to the statement it is about (`statement_use_self`,
`statement_closeStatement_self`), that it does nothing to any other, and what it adds to the
closings in the log. The operations that neither make nor close a statement are gathered in
`Usage`.
-/

set_option autoImplicit false

namespace ConnectionPool

/-- The statement that an event makes. -/
def DriverEvent.made? : DriverEvent → Option StatementId
  | prepared id _ => some id
  | preparedCall id _ => some id
  | created id => some id
  | _ => none

theorem DriverEvent.closedStatement?_of_made {event : DriverEvent} {id : StatementId}
    (h : event.made? = some id) : event.closedStatement? = none := by
  cases event <;> first | rfl | exact nomatch h

/-- **A use of a statement**, which leaves it open. -/
inductive Usage
  | bind (position : Nat) (value : Arg)
  | execute
  | clearParameters
  | closeResultSet

/-- A statement that looks like one just prepared. -/
def PhysicalStatement.Rested (statement : PhysicalStatement) : Prop :=
  statement.closed = false ∧ statement.parameters = []
    ∧ statement.resultSet ≠ some .opened

namespace Driver

/-- The driver after a use of a statement. -/
def use (driver : Driver) (usage : Usage) (id : StatementId) : Driver :=
  match usage with
  | .bind position value => (driver.bind id position value).1
  | .execute => (driver.execute id).1
  | .clearParameters => (driver.clearParameters id).1
  | .closeResultSet => (driver.closeResultSet id).1

variable (driver : Driver)

/-! ## Changing one statement -/

theorem statement_updateStatement (id : StatementId) (f : PhysicalStatement → PhysicalStatement)
    (other : StatementId) :
    (driver.updateStatement id f).statement other
      = if id = other ∧ driver.statements.Known other then f (driver.statement other)
        else driver.statement other :=
  driver.statements.get_modify id f other

theorem known_of_open {id : StatementId} (h : (driver.statement id).closed = false) :
    driver.statements.Known id := by
  by_contra hk
  rw [statement, Registry.get_of_not_known hk] at h
  exact absurd h (by decide)

theorem statement_of_not_known {id : StatementId} (h : ¬ driver.statements.Known id) :
    driver.statement id = default :=
  Registry.get_of_not_known h

/-! ## Uses -/

/-- What a use does: it changes the statement, keeping its text, its origin and whether it is
closed, and it may add an event that closes nothing. -/
theorem use_cases (usage : Usage) (id : StatementId) :
    driver.use usage id = driver ∨
      ∃ (f : PhysicalStatement → PhysicalStatement) (events : List DriverEvent),
        driver.use usage id
          = { driver.updateStatement id f with log := driver.log ++ events } ∧
        (∀ a, (f a).closed = a.closed ∧ (f a).sql = a.sql ∧ (f a).origin = a.origin) ∧
        DriverLog.closings events = [] := by
  cases usage with
  | bind position value =>
      by_cases hc : (driver.statement id).closed
      · exact Or.inl (by simp [use, Driver.bind, hc])
      · cases position with
        | zero => exact Or.inl (by simp [use, Driver.bind, hc])
        | succ index =>
            refine Or.inr ⟨fun s => { s with
                parameters := placeParameter s.parameters index value }, [], ?_,
              fun a => ⟨rfl, rfl, rfl⟩, rfl⟩
            simp [use, Driver.bind, hc, updateStatement]
  | execute =>
      by_cases hc : (driver.statement id).closed
      · exact Or.inl (by simp [use, Driver.execute, hc])
      · exact Or.inr ⟨fun s => { s with resultSet := some .opened }, [.executed id],
          by simp [use, Driver.execute, hc, updateStatement, record],
          fun a => ⟨rfl, rfl, rfl⟩, rfl⟩
  | clearParameters =>
      by_cases hc : (driver.statement id).closed
      · exact Or.inl (by simp [use, Driver.clearParameters, hc])
      · by_cases hf : driver.faults.clearing
        · exact Or.inl (by simp [use, Driver.clearParameters, hc, hf])
        · exact Or.inr ⟨fun s => { s with parameters := [] }, [.parametersCleared id],
            by simp [use, Driver.clearParameters, hc, hf, updateStatement, record],
            fun a => ⟨rfl, rfl, rfl⟩, rfl⟩
  | closeResultSet =>
      by_cases hf : driver.faults.resultSetClosing
      · exact Or.inl (by simp [use, Driver.closeResultSet, hf])
      · by_cases hr : (driver.statement id).resultSet = some .opened
        · exact Or.inr ⟨fun s => { s with resultSet := some .closed }, [.resultSetClosed id],
            by simp [use, Driver.closeResultSet, hf, hr, updateStatement, record],
            fun a => ⟨rfl, rfl, rfl⟩, rfl⟩
        · exact Or.inl (by simp [use, Driver.closeResultSet, hf, hr])

/-- What a use leaves alone of every statement. -/
theorem statement_use_congr {β : Type} (usage : Usage) (id : StatementId)
    (read : PhysicalStatement → β)
    (h : ∀ a b : PhysicalStatement, a.closed = b.closed → a.sql = b.sql → a.origin = b.origin →
      read a = read b) (other : StatementId) :
    read ((driver.use usage id).statement other) = read (driver.statement other) := by
  rcases driver.use_cases usage id with he | ⟨f, events, he, hf, -⟩
  · rw [he]
  · rw [he]
    show read ((driver.updateStatement id f).statement other) = _
    rw [statement_updateStatement]
    split
    · exact h _ _ (hf _).1 (hf _).2.1 (hf _).2.2
    · rfl

@[simp] theorem closed_use (usage : Usage) (id other : StatementId) :
    ((driver.use usage id).statement other).closed = (driver.statement other).closed :=
  driver.statement_use_congr usage id _ (fun _ _ h _ _ => h) other

@[simp] theorem origin_use (usage : Usage) (id other : StatementId) :
    ((driver.use usage id).statement other).origin = (driver.statement other).origin :=
  driver.statement_use_congr usage id _ (fun _ _ _ _ h => h) other

theorem statement_use_of_ne (usage : Usage) {id other : StatementId} (h : id ≠ other) :
    (driver.use usage id).statement other = driver.statement other := by
  rcases driver.use_cases usage id with he | ⟨f, events, he, -, -⟩
  · rw [he]
  · rw [he]
    show (driver.updateStatement id f).statement other = _
    rw [statement_updateStatement, if_neg fun hid => h hid.1]

@[simp] theorem known_use (usage : Usage) (id other : StatementId) :
    (driver.use usage id).statements.Known other ↔ driver.statements.Known other := by
  rcases driver.use_cases usage id with he | ⟨f, events, he, -, -⟩
  · rw [he]
  · rw [he]
    exact Registry.known_modify _ _ _ _

@[simp] theorem closings_use (usage : Usage) (id : StatementId) :
    DriverLog.closings (driver.use usage id).log = DriverLog.closings driver.log := by
  rcases driver.use_cases usage id with he | ⟨f, events, he, -, hev⟩
  · rw [he]
  · rw [he]
    show DriverLog.closings (driver.log ++ events) = _
    rw [DriverLog.closings, List.filterMap_append]
    simpa [DriverLog.closings] using hev

@[simp] theorem connections_use (usage : Usage) (id : StatementId) :
    (driver.use usage id).connections = driver.connections := by
  rcases driver.use_cases usage id with he | ⟨f, events, he, -, -⟩ <;> rw [he]
  rfl

/-! ## Closing -/

/-- A statement once it is closed. -/
def shut (statement : PhysicalStatement) : PhysicalStatement :=
  { statement with closed := true, resultSet := none }

theorem closeStatement_of_closed {id : StatementId} (h : (driver.statement id).closed = true) :
    (driver.closeStatement id).1 = driver := by
  simp [closeStatement, h]

theorem closeStatement_of_open {id : StatementId} (h : (driver.statement id).closed = false) :
    (driver.closeStatement id).1
      = (driver.updateStatement id shut).record (.statementClosed id) := by
  rw [closeStatement, if_neg (by simp [h])]
  rfl

theorem statement_closeStatement_of_ne {id other : StatementId} (h : id ≠ other) :
    (driver.closeStatement id).1.statement other = driver.statement other := by
  cases hc : (driver.statement id).closed with
  | true => rw [closeStatement_of_closed driver hc]
  | false =>
      rw [closeStatement_of_open driver hc]
      show (driver.updateStatement id shut).statement other = _
      rw [statement_updateStatement, if_neg fun hid => h hid.1]

theorem closed_closeStatement (id other : StatementId) :
    ((driver.closeStatement id).1.statement other).closed
      = (decide (id = other) || (driver.statement other).closed) := by
  by_cases h : id = other
  · subst h
    cases hc : (driver.statement id).closed with
    | true => rw [closeStatement_of_closed driver hc, hc, Bool.or_true]
    | false =>
        rw [closeStatement_of_open driver hc]
        show ((driver.updateStatement id shut).statement id).closed = _
        rw [statement_updateStatement, if_pos ⟨rfl, driver.known_of_open hc⟩]
        simp [shut]
  · rw [statement_closeStatement_of_ne driver h]
    simp [h]

@[simp] theorem origin_closeStatement (id other : StatementId) :
    ((driver.closeStatement id).1.statement other).origin = (driver.statement other).origin := by
  cases hc : (driver.statement id).closed with
  | true => rw [closeStatement_of_closed driver hc]
  | false =>
      rw [closeStatement_of_open driver hc]
      show ((driver.updateStatement id shut).statement other).origin = _
      rw [statement_updateStatement]
      split <;> rfl

@[simp] theorem known_closeStatement (id other : StatementId) :
    (driver.closeStatement id).1.statements.Known other ↔ driver.statements.Known other := by
  cases hc : (driver.statement id).closed with
  | true => rw [closeStatement_of_closed driver hc]
  | false =>
      rw [closeStatement_of_open driver hc]
      exact Registry.known_modify _ _ _ _

theorem closings_closeStatement (id : StatementId) :
    DriverLog.closings (driver.closeStatement id).1.log
      = if (driver.statement id).closed then DriverLog.closings driver.log
        else DriverLog.closings driver.log ++ [id] := by
  cases hc : (driver.statement id).closed with
  | true => rw [closeStatement_of_closed driver hc, if_pos rfl]
  | false =>
      rw [closeStatement_of_open driver hc, if_neg (by simp)]
      show DriverLog.closings (driver.log ++ [.statementClosed id]) = _
      rw [DriverLog.closings, List.filterMap_append]
      rfl

@[simp] theorem connections_closeStatement (id : StatementId) :
    (driver.closeStatement id).1.connections = driver.connections := by
  cases hc : (driver.statement id).closed with
  | true => rw [closeStatement_of_closed driver hc]
  | false => rw [closeStatement_of_open driver hc]; rfl

/-! ## Making -/

section Issue

variable (statement : PhysicalStatement) (event : StatementId → DriverEvent)

theorem statement_issue (id : StatementId) :
    (driver.issue statement event).1.statement id
      = if id = driver.statements.next then statement else driver.statement id :=
  driver.statements.get_register statement id

theorem statement_issue_of_known {id : StatementId} (h : driver.statements.Known id) :
    (driver.issue statement event).1.statement id = driver.statement id := by
  rw [statement_issue, if_neg (Registry.next_ne h).symm]

@[simp] theorem known_issue (id : StatementId) :
    (driver.issue statement event).1.statements.Known id
      ↔ driver.statements.Known id ∨ id = driver.statements.next :=
  Registry.known_register _ _ _

theorem closings_issue (h : ∀ id, (event id).made? = some id) :
    DriverLog.closings (driver.issue statement event).1.log = DriverLog.closings driver.log := by
  show DriverLog.closings (driver.log ++ [event driver.statements.next]) = _
  rw [DriverLog.closings, List.filterMap_append]
  simp [DriverLog.closings, DriverEvent.closedStatement?_of_made (h _)]

end Issue

/-! ## Closed statements have no result set -/

/-- No closed statement has a result set. -/
def Settled (driver : Driver) : Prop :=
  ∀ id, (driver.statement id).closed = true → (driver.statement id).resultSet = none

variable {driver : Driver}

/-- A closed statement refuses every use. -/
theorem Settled.use_of_closed (h : driver.Settled) {id : StatementId}
    (hc : (driver.statement id).closed = true) (usage : Usage) : driver.use usage id = driver := by
  cases usage with
  | bind position value => simp [use, Driver.bind, hc]
  | execute => simp [use, Driver.execute, hc]
  | clearParameters => simp [use, Driver.clearParameters, hc]
  | closeResultSet =>
      simp only [use, Driver.closeResultSet, h id hc]
      split <;> rfl

theorem Settled.use (h : driver.Settled) (usage : Usage) (id : StatementId) :
    (driver.use usage id).Settled := by
  intro other hc
  rw [closed_use] at hc
  by_cases hid : id = other
  · subst hid
    rw [h.use_of_closed hc]
    exact h id hc
  · rw [statement_use_of_ne _ _ hid]
    exact h other hc

theorem Settled.closeStatement (h : driver.Settled) (id : StatementId) :
    (driver.closeStatement id).1.Settled := by
  cases hc : (driver.statement id).closed with
  | true =>
      rw [closeStatement_of_closed driver hc]
      exact h
  | false =>
      intro other ho
      by_cases hid : id = other
      · subst hid
        rw [closeStatement_of_open driver hc]
        show ((driver.updateStatement id shut).statement id).resultSet = none
        rw [statement_updateStatement, if_pos ⟨rfl, driver.known_of_open hc⟩]
        rfl
      · rw [driver.statement_closeStatement_of_ne hid] at ho ⊢
        exact h other ho

theorem Settled.issue (h : driver.Settled) {statement : PhysicalStatement}
    (hr : statement.Rested) (event : StatementId → DriverEvent) :
    (driver.issue statement event).1.Settled := by
  intro id hc
  rw [statement_issue] at hc ⊢
  split at hc
  · rw [hr.1] at hc
    exact nomatch hc
  · next hid =>
      rw [if_neg hid]
      exact h id hc

variable (driver : Driver)

/-! ## Connections -/

theorem statements_closeConnection (id : PhysicalConnectionId) :
    (driver.closeConnection id).statements = driver.statements := by
  unfold closeConnection
  split <;> rfl

theorem size_connections_closeConnection (id : PhysicalConnectionId) :
    (driver.closeConnection id).connections.size = driver.connections.size := by
  unfold closeConnection
  split
  · rfl
  · exact Registry.size_modify _ _ _

theorem closings_closeConnection (id : PhysicalConnectionId) :
    DriverLog.closings (driver.closeConnection id).log = DriverLog.closings driver.log := by
  unfold closeConnection
  split
  · rfl
  · show DriverLog.closings (driver.log ++ [.connectionClosed id]) = _
    rw [DriverLog.closings, List.filterMap_append]
    simp [DriverLog.closings, DriverEvent.closedStatement?]

theorem closed_closeConnection (id other : PhysicalConnectionId) :
    ((driver.closeConnection id).connection other).closed
      = (decide (id = other) || (driver.connection other).closed) := by
  unfold closeConnection
  split
  · next hc =>
      by_cases h : id = other
      · subst h
        simp [hc]
      · simp [h]
  · next hc =>
      show ((driver.connections.modify id _).get other).closed = _
      rw [Registry.get_modify]
      by_cases h : id = other
      · subst h
        by_cases hk : driver.connections.Known id
        · simp [hk]
        · rw [connection, Registry.get_of_not_known hk] at hc
          exact absurd rfl hc
      · simp [h, connection]

end Driver

end ConnectionPool
