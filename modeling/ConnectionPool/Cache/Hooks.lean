import ConnectionPool.Connection.Holding

/-!
# What a cache does in the life of a pool

When its pool starts a cache makes sure that the pool has an admission counter, and when the
pool closes it takes the counter away. When its connection is checked out a cache attaches
itself to the connection's store and the pool's counter. Before the connection is closed it
drains the store, giving back every slot and closing every parked statement, and after that it
detaches itself.
-/

set_option autoImplicit false

namespace ConnectionPool

namespace World

/-- Make sure that a pool has an admission counter. -/
def startCounting (w : World) (p : PoolId) : World :=
  match (w.pool p).counter? with
  | some _ => w
  | none =>
      let n := w.counters.next
      { w with counters := w.counters.register {} }.updatePool p fun pool =>
        { pool with attributes := pool.attributes.insert .counter n }

/-- Take the admission counter of a pool away. -/
def stopCounting (w : World) (p : PoolId) : World :=
  w.updatePool p fun pool => { pool with attributes := pool.attributes.erase .counter }

/-- Make sure that a connection has a store. -/
def provideStore (w : World) (c : ConnectionId) : World :=
  match (w.connection c).store? with
  | some _ => w
  | none => w.setStore c {}

/-- Attach a cache to a connection, with the counter that the pool has now. -/
def attach (w : World) (k : CacheId) (p : PoolId) (c : ConnectionId) : World :=
  (w.provideStore c).rebind k (some { connection := c, counter := (w.pool p).counter? })

/-- Detach a cache. -/
def detach (w : World) (k : CacheId) : World := w.rebind k none

/-- The counter that a cache gives slots back to: the one it is attached to, or else the one
that the pool has now. -/
def countedBy (w : World) (k : CacheId) (p : PoolId) : Option CounterId :=
  ((w.cache k).binding.bind Binding.counter).or (w.pool p).counter?

/-- Give back the slot of a drained statement and close the statement. -/
def discharge (counter : Option CounterId) (w : World) (tracked : Tracked) : World :=
  (w.releaseSlot counter).dropTracked tracked

/-- Drain the store of a connection for good: every slot is given back and every parked
statement closed. -/
def drain (w : World) (k : CacheId) (p : PoolId) (c : ConnectionId) : World :=
  match (w.connection c).store? with
  | none => w
  | some store =>
      store.parked.foldl (discharge (w.countedBy k p)) (w.setStore c store.drained)

end World

end ConnectionPool
