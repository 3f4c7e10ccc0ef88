import ConnectionPool.Attributes
import ConnectionPool.Cache.Admission
import ConnectionPool.Connection.Store
import ConnectionPool.Driver.Statement
import ConnectionPool.Journal

/-!
# The world of pools

One value holds everything that pools over one driver share: the clock, the driver, the pools
with their connections, the caches and the admission counters, and the journal. Pools,
connections, caches and counters have numbers that stay valid for good; a number that was
never given out reads as a thing that is closed or unattached.

Pools and connections carry attributes, tables in which interceptors keep state of their own:
the admission counter of a pool, the statement store of a connection.
-/

set_option autoImplicit false

namespace ConnectionPool

/-- The number of an admission counter. -/
abbrev CounterId := Nat

/-- What interceptors keep on a connection. -/
inductive ConnectionAttribute
  | store
  deriving DecidableEq, Repr

/-- The type of each attribute of a connection. -/
abbrev ConnectionAttribute.Value : ConnectionAttribute → Type
  | .store => Store

/-- What interceptors keep on a pool. -/
inductive PoolAttribute
  | counter
  deriving DecidableEq, Repr

/-- The type of each attribute of a pool. -/
abbrev PoolAttribute.Value : PoolAttribute → Type
  | .counter => CounterId

/-- What a cache is attached to: a connection, and the counter of its pool if there was one
at the time. -/
structure Binding where
  connection : ConnectionId
  counter : Option CounterId
  deriving DecidableEq, Repr

/-- **A statement cache.** -/
structure StatementCache where
  policy : CachePolicy := {}
  /-- Whether the wrapping of its statements can be made to fail. -/
  fallible : Bool := false
  binding : Option Binding := none
  deriving DecidableEq, Repr, Inhabited

/-- Whether a cache is attached to a connection. -/
def StatementCache.isAttachedTo (cache : StatementCache) (c : ConnectionId) : Bool :=
  cache.binding.any fun binding => decide (binding.connection = c)

/-- **A connection of a pool.** -/
structure Connection where
  pool : PoolId
  /-- The driver's connection. -/
  physical : PhysicalConnectionId
  /-- Whether the driver's connection was closed. -/
  closed : Bool := false
  metadata : Metadata
  chain : List Interceptor := []
  attributes : Attributes ConnectionAttribute.Value := Attributes.empty

/-- A connection that was never opened is a closed one. -/
instance : Inhabited Connection :=
  ⟨{ pool := 0, physical := 0, closed := true, metadata := (Metadata.opened 0 0).enter .closed }⟩

/-- **A pool.** -/
structure Pool where
  config : PoolConfig := {}
  /-- The definitions, with the attempts made at each. -/
  sources : List Source := []
  listeners : List Interceptor := []
  /-- The connections waiting in the pool, the one returned last first. -/
  idle : List ConnectionId := []
  inUse : Nat := 0
  total : Nat := 0
  /-- How many connections were opened with success. -/
  opened : Nat := 0
  closed : Bool := false
  attributes : Attributes PoolAttribute.Value := Attributes.empty

/-- A pool that was never started is a closed one. -/
instance : Inhabited Pool := ⟨{ closed := true }⟩

/-- **The world.** -/
structure World where
  now : Millis := 0
  driver : Driver := {}
  /-- How many wrappings of statements will still fail in a cache where they can. -/
  wrapFaults : Nat := 0
  counters : Registry Counter := {}
  caches : Registry StatementCache := {}
  connections : Registry Connection := {}
  pools : Registry Pool := {}
  /-- The connections that clients hold beyond their checkouts, each as often as it is held. -/
  shares : List ConnectionId := []
  journal : Journal := []

namespace Connection

/-- The store on the connection. -/
def store? (connection : Connection) : Option Store := connection.attributes.get? .store

/-- Whether the connection was torn down: neither its pool nor a checkout holds it any more. -/
def isTornDown (connection : Connection) : Bool :=
  connection.closed && decide (connection.metadata.state = .closed)

/-- What an interceptor can see of the connection. -/
def sight (connection : Connection) : ConnectionSight where
  number := connection.metadata.number
  checkouts := connection.metadata.checkouts
  state := connection.metadata.state
  closed := connection.closed

/-- The printed form. -/
def describe (connection : Connection) : String :=
  Text.record "PooledConnection"
    [("id", toString connection.metadata.number), ("state", connection.metadata.state.word),
      ("interceptors", toString connection.chain.length)]

/-- The printed form of the attributes. -/
def describeAttributes (connection : Connection) : String :=
  connection.attributes.describe

end Connection

namespace Pool

/-- The admission counter of the pool. -/
def counter? (pool : Pool) : Option CounterId := pool.attributes.get? .counter

/-- The numbers of the pool. -/
def status (pool : Pool) : PoolStatus where
  available := pool.idle.length
  inUse := pool.inUse
  total := pool.total
  limit := pool.config.maxConnections

/-- The printed form, with a sign for the number of the pool. -/
def describe (pool : Pool) : String :=
  Text.record "Pool"
    [("id", "#"), ("name", Text.quote pool.config.name), ("status", pool.status.describe),
      ("closed", Text.truth pool.closed)]

end Pool

namespace World

instance : Inhabited World := ⟨{}⟩

/-! ## Reading and changing one thing -/

/-- A pool by its number. -/
def pool (w : World) (p : PoolId) : Pool := w.pools.get p

/-- A connection by its number. -/
def connection (w : World) (c : ConnectionId) : Connection := w.connections.get c

/-- A cache by its number. -/
def cache (w : World) (k : CacheId) : StatementCache := w.caches.get k

/-- A counter by its number. -/
def counter (w : World) (n : CounterId) : Counter := w.counters.get n

/-- The world with a pool changed. -/
def updatePool (w : World) (p : PoolId) (change : Pool → Pool) : World :=
  { w with pools := w.pools.modify p change }

/-- The world with a connection changed. -/
def updateConnection (w : World) (c : ConnectionId) (change : Connection → Connection) : World :=
  { w with connections := w.connections.modify c change }

/-- The world with a cache changed. -/
def updateCache (w : World) (k : CacheId) (change : StatementCache → StatementCache) : World :=
  { w with caches := w.caches.modify k change }

/-- The world with a counter changed. -/
def updateCounter (w : World) (n : CounterId) (change : Counter → Counter) : World :=
  { w with counters := w.counters.modify n change }

/-- The world with the record of a connection changed. -/
def updateMetadata (w : World) (c : ConnectionId) (change : Metadata → Metadata) : World :=
  w.updateConnection c fun connection => { connection with metadata := change connection.metadata }

/-- The store on a connection; an empty one where there is none. -/
def store (w : World) (c : ConnectionId) : Store := (w.connection c).store?.getD default

/-- The world with a store on a connection. -/
def setStore (w : World) (c : ConnectionId) (store : Store) : World :=
  w.updateConnection c fun connection =>
    { connection with attributes := connection.attributes.insert .store store }

/-- The world with one slot of a counter given back, where there is a counter. -/
def releaseSlot (w : World) (counter : Option CounterId) : World :=
  match counter with
  | none => w
  | some n => w.updateCounter n Counter.release

/-- The world after the driver has done something. -/
def onDriver {α : Type} (w : World) (action : Driver → Driver × α) : World × α :=
  let (driver, result) := action w.driver
  ({ w with driver }, result)

/-! ## The journal -/

/-- The world with one more notice. -/
def note (w : World) (receiver : Receiver) (interceptor : Interceptor) (content : NoticeContent) :
    World :=
  { w with
    journal := w.journal ++ [{ receiver, interceptor, content, logged := w.driver.log.length }] }

/-- What an interceptor of a pool can see, and of a connection where there is one. -/
def sight (w : World) (p : PoolId) (c : Option ConnectionId) : Sight where
  poolName := (w.pool p).config.name
  poolClosed := (w.pool p).closed
  status := (w.pool p).status
  connection := c.map fun c => (w.connection c).sight

/-- Log and journal as one sequence. -/
def happenings (w : World) : List Happening := weave 0 w.driver.log w.journal

/-- What happened since an earlier state of the world. -/
def happeningsSince (earlier w : World) : List Happening :=
  let start := earlier.driver.log.length
  weave start (w.driver.log.drop start) (w.journal.drop earlier.journal.length)

end World

end ConnectionPool
