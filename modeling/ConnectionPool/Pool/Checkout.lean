import ConnectionPool.Pool.Teardown

/-!
# Starting a pool and checking connections out

A pool starts once its configuration is valid and every definition has made a listener. A
checkout hands out the idle connection that was returned last, or opens a new one while the
limit allows; idle connections that turn out to be invalid are torn down on the way.
-/

set_option autoImplicit false

namespace ConnectionPool

namespace World

/-- Make an interceptor from a definition. -/
def makeInterceptor (w : World) (definition : Definition) : World × Interceptor :=
  let name := definition.instanceName
  match definition.role with
  | .pass => (w, ⟨name, .pass⟩)
  | .trace => (w, ⟨name, .trace⟩)
  | .answerTruth scope value => (w, ⟨name, .answerTruth scope value⟩)
  | .answerStatement scope => (w, ⟨name, .answerStatement scope⟩)
  | .reject scope => (w, ⟨name, .reject scope⟩)
  | .appendFlag scope => (w, ⟨name, .appendFlag scope⟩)
  | .cache fallible =>
      let (w, k) := w.newCache (CachePolicy.ofProperties definition.properties) fallible
      (w, ⟨name, .cache k⟩)

/-- Make an interceptor from each definition in order. -/
def makeInterceptors (w : World) : List Definition → World × List Interceptor
  | [] => (w, [])
  | definition :: rest =>
      let (w, interceptor) := w.makeInterceptor definition
      let (w, interceptors) := w.makeInterceptors rest
      (w, interceptor :: interceptors)

/-! ## Starting a pool -/

/-- **Start a pool.** Nothing is started when the configuration is not valid or a definition
refuses. -/
def startPool (w : World) (config : PoolConfig) : World × Except PoolError PoolId :=
  match config.check with
  | .error error => (w, .error error)
  | .ok () =>
      match Source.attemptAll (config.interceptors.map fun definition => { definition }) with
      | (_, .error error) => (w, .error error)
      | (sources, .ok ()) =>
          let (w, listeners) := w.makeInterceptors config.interceptors
          let p := w.pools.next
          let w := { w with pools := w.pools.register { config, sources, listeners } }
          (w.tellListeners p .poolStarted, .ok p)

/-! ## Checking out -/

/-- Open a connection for a pool. When a definition refuses, the driver's connection is closed
again. Only a connection that is opened with success takes a number of the pool. -/
def openConnection (w : World) (p : PoolId) : World × Except PoolError ConnectionId :=
  match w.onDriver Driver.connect with
  | (w, .error error) => (w, .error (.connectionCreation error))
  | (w, .ok physical) =>
      let (sources, verdict) := Source.attemptAll (w.pool p).sources
      let w := w.updatePool p fun pool => { pool with sources }
      match verdict with
      | .error error => ((w.onDriver fun driver => driver.disconnect physical).1, .error error)
      | .ok () =>
          let (w, chain) := w.makeInterceptors (w.pool p).config.interceptors
          let number := (w.pool p).opened + 1
          let c := w.connections.next
          let connection : Connection :=
            { pool := p, physical, metadata := .opened number w.now, chain }
          let w := { w with connections := w.connections.register connection }
          (w.updatePool p fun pool => { pool with opened := number }, .ok c)

/-- Whether a connection is open and the driver reports it valid. -/
def isConnectionValid (w : World) (c : ConnectionId) : Bool :=
  !(w.connection c).closed && w.driver.isValid (w.connection c).physical

/-- Take a slot of a pool for a new connection and open it; the slot is given back when that
fails. -/
def extend (w : World) (p : PoolId) : World × Except PoolError ConnectionId :=
  let limit := (w.pool p).config.maxConnections
  if limit ≤ (w.pool p).total then (w, .error (.maxConnectionsReached limit))
  else
    let w := w.updatePool p fun pool =>
      { pool with total := pool.total + 1, inUse := pool.inUse + 1 }
    match w.openConnection p with
    | (w, .ok c) => (w, .ok c)
    | (w, .error error) => (w.freeSlot p, .error error)

/-- Take the first of the given idle connections that may be handed out, or open a new one.
Those passed over are torn down. -/
def acquire (p : PoolId) : List ConnectionId → World → World × Except PoolError ConnectionId
  | [], w => w.extend p
  | c :: rest, w =>
      let w := w.updatePool p fun pool => { pool with idle := rest, inUse := pool.inUse + 1 }
      if (w.pool p).config.testOnCheckout && !w.isConnectionValid c then
        acquire p rest (w.retire c)
      else (w, .ok c)

/-- **Check a connection out of a pool.** -/
def checkOut (w : World) (p : PoolId) : World × Except PoolError ConnectionId :=
  if (w.pool p).closed then (w, .error .poolClosed)
  else
    match acquire p (w.pool p).idle w with
    | (w, .error error) => (w, .error error)
    | (w, .ok c) =>
        let w := w.updateMetadata c fun metadata => metadata.checkOut w.now
        (w.tellChain c (.attached c), .ok c)

end World

end ConnectionPool
