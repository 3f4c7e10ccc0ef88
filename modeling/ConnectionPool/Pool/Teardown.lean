import ConnectionPool.Chain.Delivery

/-!
# Ending the life of a connection

The interceptors of a connection are told before the driver's connection is closed and once
more after it. `checkIn` returns a connection to its pool and `retire` takes it out for good;
`sweep` takes out the idle connections that are too old, and `shutDown` closes the pool.
-/

set_option autoImplicit false

namespace ConnectionPool

namespace World

/-- Close the driver's connection, whether or not that fails. -/
def hangUp (w : World) (c : ConnectionId) : World :=
  if (w.connection c).closed then w
  else
    ((w.updateConnection c fun connection => { connection with closed := true }).onDriver
      fun driver => driver.disconnect (w.connection c).physical).1

/-- **Tear a connection down.** -/
def teardown (finalizing : Bool) (w : World) (c : ConnectionId) : World :=
  let w := w.updateMetadata c fun metadata => metadata.enter .closing
  let w := w.tellChain c (.disconnected c finalizing)
  let w := w.hangUp c
  let w := w.tellChain c (.detached c)
  w.updateMetadata c fun metadata => metadata.enter .closed

/-- Take one connection that is in use off the numbers of a pool. -/
def freeSlot (w : World) (p : PoolId) : World :=
  w.updatePool p fun pool => { pool with total := pool.total - 1, inUse := pool.inUse - 1 }

/-- Take a connection that is in use out of its pool, tear it down and let go of it. -/
def retire (w : World) (c : ConnectionId) : World :=
  (teardown false (w.freeSlot (w.connection c).pool) c).forget c

/-- **Return a connection to its pool.** When the pool is closed, or the connection is being
torn down already, it is torn down instead. -/
def checkIn (w : World) (c : ConnectionId) : World :=
  let p := (w.connection c).pool
  if (w.pool p).closed || (w.connection c).metadata.state.isTerminal then w.retire c
  else
    (w.updateMetadata c fun metadata => metadata.checkIn w.now).updatePool p fun pool =>
      { pool with inUse := pool.inUse - 1, idle := c :: pool.idle }

/-- Whether an idle connection has waited or lived too long. -/
def isExpired (w : World) (p : PoolId) (c : ConnectionId) : Bool :=
  let config := (w.pool p).config
  let metadata := (w.connection c).metadata
  metadata.overdue config.idleTimeout w.now || metadata.outlived config.maxLifetime w.now

/-- The idle connections of a pool that are too old, the one returned first at the front. -/
def expired (w : World) (p : PoolId) : List ConnectionId :=
  ((w.pool p).idle.filter (w.isExpired p)).reverse

/-- **Take out the idle connections that are too old.** All leave the numbers of the pool
before the first is torn down. The answer is how many they were. -/
def sweep (w : World) (p : PoolId) : World × Nat :=
  let expired := w.expired p
  let w := w.updatePool p fun pool =>
    { pool with
      idle := pool.idle.filter fun c => !w.isExpired p c
      total := pool.total - expired.length }
  (expired.foldl forget (expired.foldl (teardown false) w), expired.length)

/-- **Close a pool.** Its idle connections are torn down at once, the others when they are
returned. Closing it again does nothing. -/
def shutDown (w : World) (p : PoolId) : World :=
  if (w.pool p).closed then w
  else
    let idle := (w.pool p).idle.reverse
    let w := w.updatePool p fun pool =>
      { pool with closed := true, idle := [], total := pool.total - idle.length }
    idle.foldl forget ((idle.foldl (teardown true) w).tellListeners p .poolClosed)

end World

end ConnectionPool
