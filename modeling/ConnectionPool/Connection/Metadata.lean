/-!
# Lifecycle of a connection

The state of a pooled connection and the times that decide when it is too old. Times are
whole milliseconds of a clock that only moves forward; a limit is passed when strictly more
time than the limit has gone by.
-/

set_option autoImplicit false

namespace ConnectionPool

/-- A moment, or a span of time, in milliseconds. -/
abbrev Millis := Nat

/-- **The state of a pooled connection.** -/
inductive ConnectionState
  /-- Waiting in the pool. -/
  | idle
  /-- Checked out. -/
  | inUse
  /-- Being torn down. -/
  | closing
  /-- Torn down. -/
  | closed
  deriving DecidableEq, Repr, Inhabited

namespace ConnectionState

/-- Whether a connection in this state can be checked out. -/
def isAvailable (state : ConnectionState) : Bool := state == idle

/-- Whether a connection in this state is being torn down or gone. -/
def isTerminal (state : ConnectionState) : Bool := state == closing || state == closed

/-- The name of the state. -/
def word : ConnectionState → String
  | idle => "Idle"
  | inUse => "InUse"
  | closing => "Closing"
  | closed => "Closed"

end ConnectionState

/-- **What a pool records of a connection**: its number within the pool, the moments of its
creation and of its last checkout or return, the number of checkouts, and its state. -/
structure Metadata where
  number : Nat
  createdAt : Millis
  lastUsedAt : Millis
  checkouts : Nat := 0
  state : ConnectionState := .idle
  deriving DecidableEq, Repr, Inhabited

namespace Metadata

/-- The record of a connection opened at `now`. -/
def opened (number : Nat) (now : Millis) : Metadata :=
  { number, createdAt := now, lastUsedAt := now }

/-- The time since the connection was opened. -/
def age (metadata : Metadata) (now : Millis) : Millis := now - metadata.createdAt

/-- The time since the last checkout or return. -/
def rest (metadata : Metadata) (now : Millis) : Millis := now - metadata.lastUsedAt

/-- Whether the connection has passed its lifetime. -/
def outlived (metadata : Metadata) (lifetime now : Millis) : Bool :=
  decide (lifetime < metadata.age now)

/-- Whether the connection is idle and has been so for longer than the timeout. -/
def overdue (metadata : Metadata) (timeout now : Millis) : Bool :=
  metadata.state.isAvailable && decide (timeout < metadata.rest now)

/-- The record after a checkout. -/
def checkOut (metadata : Metadata) (now : Millis) : Metadata :=
  { metadata with lastUsedAt := now, checkouts := metadata.checkouts + 1, state := .inUse }

/-- The record after a return to the pool. -/
def checkIn (metadata : Metadata) (now : Millis) : Metadata :=
  { metadata with lastUsedAt := now, state := .idle }

/-- The record with a new state. -/
def enter (metadata : Metadata) (state : ConnectionState) : Metadata :=
  { metadata with state }

end Metadata

end ConnectionPool
