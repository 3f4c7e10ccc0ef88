/-!
# Failures of a driver

A driver's error is opaque to everything above it: a message and perhaps a state code.
-/

set_option autoImplicit false

namespace ConnectionPool

/-- **An error of the driver**, with its state code if the driver gave one. -/
structure DriverError where
  message : String
  sqlState : Option String := none
  deriving DecidableEq, Repr, Inhabited

end ConnectionPool
