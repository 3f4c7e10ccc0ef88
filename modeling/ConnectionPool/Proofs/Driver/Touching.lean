import ConnectionPool.Proofs.Driver.Rows

/-!
# Which statements the driver touches

An operation of the driver touches a statement if it changes the statement or logs an event that
is about it. `Driver.Touches ids` says that no statement outside `ids` is touched. Using a
statement and closing it touch that statement only, making one touches the new one, and what is
done with connections touches none.
-/

set_option autoImplicit false

namespace ConnectionPool

/-- The statement that an event of the driver is about. -/
def DriverEvent.statement? : DriverEvent → Option StatementId
  | prepared id _ => some id
  | preparedCall id _ => some id
  | created id => some id
  | executed id => some id
  | parametersCleared id => some id
  | resultSetClosed id => some id
  | statementClosed id => some id
  | _ => none

/-- An event that makes a statement is about it. -/
theorem DriverEvent.statement?_of_made {event : DriverEvent} {id : StatementId}
    (h : event.made? = some id) : event.statement? = some id := by
  cases event <;> first | exact h | cases h

namespace Driver

/-- **The driver touches no statement but these.** -/
structure Touches (ids : StatementId → Prop) (driver driver' : Driver) : Prop where
  size : driver.statements.size ≤ driver'.statements.size
  statement : ∀ id, ¬ ids id → driver'.statement id = driver.statement id
  log : ∃ events : DriverLog, driver'.log = driver.log ++ events
    ∧ ∀ event ∈ events, ∀ id, event.statement? = some id → ids id

variable {ids ids' : StatementId → Prop} {driver driver' driver'' : Driver}

theorem Touches.refl (ids : StatementId → Prop) (driver : Driver) : Touches ids driver driver where
  size := Nat.le_refl _
  statement _ _ := rfl
  log := ⟨[], (List.append_nil _).symm, fun _ h => absurd h List.not_mem_nil⟩

theorem Touches.trans (h : Touches ids driver driver') (h' : Touches ids driver' driver'') :
    Touches ids driver driver'' where
  size := Nat.le_trans h.size h'.size
  statement id hid := (h'.statement id hid).trans (h.statement id hid)
  log := by
    obtain ⟨events, hl, he⟩ := h.log
    obtain ⟨events', hl', he'⟩ := h'.log
    refine ⟨events ++ events', by rw [hl', hl, List.append_assoc], fun event hm => ?_⟩
    rcases List.mem_append.mp hm with hm | hm
    · exact he event hm
    · exact he' event hm

theorem Touches.mono (h : Touches ids driver driver') (hids : ∀ id, ids id → ids' id) :
    Touches ids' driver driver' where
  size := h.size
  statement id hid := h.statement id fun hi => hid (hids id hi)
  log := by
    obtain ⟨events, hl, he⟩ := h.log
    exact ⟨events, hl, fun event hm id hid => hids id (he event hm id hid)⟩

/-- One event, about a statement that may be touched. -/
theorem Touches.of_event (hsize : driver.statements.size ≤ driver'.statements.size)
    (hs : ∀ id, ¬ ids id → driver'.statement id = driver.statement id) (event : DriverEvent)
    (hl : driver'.log = driver.log ++ [event]) (he : ∀ id, event.statement? = some id → ids id) :
    Touches ids driver driver' := by
  refine ⟨hsize, hs, [event], hl, fun e hm => ?_⟩
  rw [List.mem_singleton.mp hm]
  exact he

/-- Nothing is done to statements, and nothing is logged about them. -/
theorem Touches.of_none (hs : driver'.statements = driver.statements)
    (hl : ∃ events : DriverLog, driver'.log = driver.log ++ events
      ∧ ∀ event ∈ events, event.statement? = none) : Touches ids driver driver' := by
  refine ⟨hs ▸ Nat.le_refl _, fun id _ => congrArg (Registry.get · id) hs, ?_⟩
  obtain ⟨events, hl, he⟩ := hl
  refine ⟨events, hl, fun event hm id hid => ?_⟩
  rw [he event hm] at hid
  cases hid

variable (driver)

/-! ## Statements -/

theorem touches_updateStatement (id : StatementId) (f : PhysicalStatement → PhysicalStatement)
    (events : DriverLog) (he : ∀ event ∈ events, event.statement? = some id) :
    Touches (· = id) driver { driver.updateStatement id f with log := driver.log ++ events } where
  size := Nat.le_of_eq (Registry.size_modify _ _ _).symm
  statement other ho := by
    show (driver.updateStatement id f).statement other = _
    rw [statement_updateStatement, if_neg fun h => ho h.1.symm]
  log := by
    refine ⟨events, rfl, fun event hm other ho => ?_⟩
    rw [he event hm] at ho
    exact (Option.some.inj ho).symm

theorem touches_use (usage : Usage) (id : StatementId) :
    Touches (· = id) driver (driver.use usage id) := by
  have hone : ∀ (f : PhysicalStatement → PhysicalStatement) (event : DriverEvent),
      event.statement? = some id →
      Touches (· = id) driver ((driver.updateStatement id f).record event) := by
    intro f event he
    refine driver.touches_updateStatement id f [event] fun e hm => ?_
    rw [List.mem_singleton.mp hm]
    exact he
  cases usage with
  | bind position value =>
      simp only [use, bind]
      split
      · exact .refl _ driver
      · cases position with
        | zero => exact .refl _ driver
        | succ index =>
            have hset := driver.touches_updateStatement id
              (fun s => { s with parameters := placeParameter s.parameters index value }) []
              fun _ h => absurd h List.not_mem_nil
            rw [List.append_nil] at hset
            exact hset
  | execute =>
      simp only [use, execute]
      split
      · exact .refl _ driver
      · exact hone _ (.executed id) rfl
  | clearParameters =>
      simp only [use, clearParameters]
      split
      · exact .refl _ driver
      · split
        · exact .refl _ driver
        · exact hone _ (.parametersCleared id) rfl
  | closeResultSet =>
      simp only [use, closeResultSet]
      split
      · exact .refl _ driver
      · split
        · exact hone _ (.resultSetClosed id) rfl
        · exact .refl _ driver

theorem touches_closeStatement (id : StatementId) :
    Touches (· = id) driver (driver.closeStatement id).1 := by
  cases hc : (driver.statement id).closed with
  | true =>
      rw [closeStatement_of_closed driver hc]
      exact .refl _ driver
  | false =>
      rw [closeStatement_of_open driver hc]
      refine driver.touches_updateStatement id shut [.statementClosed id] fun event hm => ?_
      rw [List.mem_singleton.mp hm]
      rfl

/-- Making a statement touches the new one only. -/
theorem touches_issue (statement : PhysicalStatement) {event : StatementId → DriverEvent}
    (he : ∀ id, (event id).made? = some id) :
    Touches (fun id => ¬ driver.statements.Known id) driver
      (driver.issue statement event).1 := by
  refine .of_event (by simp [issue, record]) (fun id hid => ?_)
    (event driver.statements.next) rfl fun id hid => ?_
  · exact driver.statement_issue_of_known statement event (Classical.not_not.mp hid)
  · rw [DriverEvent.statement?_of_made (he _)] at hid
    rw [← Option.some.inj hid]
    exact driver.statements.not_known_next

/-! ## Connections -/

theorem touches_openConnection : Touches ids driver driver.openConnection.1 :=
  .of_none rfl ⟨[.connected driver.connections.next], rfl, fun event hm => by
    rw [List.mem_singleton.mp hm]
    rfl⟩

theorem touches_closeConnection (line : PhysicalConnectionId) :
    Touches ids driver (driver.closeConnection line) := by
  unfold closeConnection
  split
  · exact .refl _ driver
  · exact .of_none rfl ⟨[.connectionClosed line], rfl, fun event hm => by
      rw [List.mem_singleton.mp hm]
      rfl⟩

theorem touches_faults (faults : Faults) : Touches ids driver { driver with faults } :=
  .of_none rfl ⟨[], (List.append_nil _).symm, fun _ h => absurd h List.not_mem_nil⟩

end Driver

end ConnectionPool
