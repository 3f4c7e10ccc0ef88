import ConnectionPool.Proofs.Driver.Rows
import Mathlib.Logic.Relation

/-!
# What a driver does

A driver does one thing after the other (`Driver.Acts`): it uses statements, makes them and closes
them, opens connections and closes them, and has its faults switched. Whatever holds of a driver at
first and after each of these acts holds of it at any time.
-/

set_option autoImplicit false

namespace ConnectionPool

/-- A statement that nothing was done with yet. -/
theorem PhysicalStatement.Rested.fresh (sql : String)
    (origin : Option (PhysicalConnectionId × Call)) :
    ({ sql, origin } : PhysicalStatement).Rested :=
  ⟨rfl, rfl, by simp⟩

namespace Driver

/-- **One act of a driver.** A statement that is made is fresh, and the event says that it is made.
-/
inductive Act (driver : Driver) : Driver → Prop
  | use (usage : Usage) (id : StatementId) : Act driver (driver.use usage id)
  | closeStatement (id : StatementId) : Act driver (driver.closeStatement id).1
  | issue {statement : PhysicalStatement} {event : StatementId → DriverEvent}
      (hr : statement.Rested) (he : ∀ id, (event id).made? = some id) :
      Act driver (driver.issue statement event).1
  | openConnection : Act driver driver.openConnection.1
  | closeConnection (line : PhysicalConnectionId) : Act driver (driver.closeConnection line)
  | switch (faults : Faults) : Act driver { driver with faults }

/-- **Acts** one after the other. -/
abbrev Acts : Driver → Driver → Prop := Relation.ReflTransGen Act

variable {driver driver' driver'' : Driver}

theorem Act.acts (h : Act driver driver') : Acts driver driver' := Relation.ReflTransGen.single h

theorem Acts.refl (driver : Driver) : Acts driver driver := Relation.ReflTransGen.refl

theorem Acts.trans (h : Acts driver driver') (h' : Acts driver' driver'') : Acts driver driver'' :=
  Relation.ReflTransGen.trans h h'

/-- **What every act keeps** is kept by any number of them. -/
theorem Acts.keep {P : Driver → Prop} (hact : ∀ {d d' : Driver}, Act d d' → P d → P d')
    (h : Acts driver driver') (hP : P driver) : P driver' := by
  induction h with
  | refl => exact hP
  | tail _ hstep ih => exact hact hstep ih

end Driver

end ConnectionPool
