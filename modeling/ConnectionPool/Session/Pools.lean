import ConnectionPool.Session.Basic

/-!
# Commands about pools and connections

Starting, inspecting and closing pools, checking connections out and in, and making calls on
connections.
-/

set_option autoImplicit false

namespace ConnectionPool

namespace Session

/-- A view of a pool. -/
def poolReport (w : World) (p : PoolId) : PoolReport where
  name := (w.pool p).config.name
  description := (w.pool p).describe
  interceptors := (w.pool p).config.interceptors.length
  attributes := (w.pool p).attributes.size

/-- Do a command about pools. -/
def runPool (s : Session) : PoolCommand → Outcome
  | .start save request =>
      s.withFresh save (s.pools.contains save) fun _ =>
        match request.read with
        | .error error => (s, .poolError error)
        | .ok config =>
            match s.world.startPool config with
            | (w, .error error) => (s.inWorld w, .poolError error)
            | (w, .ok p) => ({ s.inWorld w with pools := s.pools.insert save p }, .done)
  | .checkOut pool save =>
      s.withFresh save (s.guards.contains save) fun _ =>
        s.withPool pool fun p =>
          match s.world.checkOut p with
          | (w, .error error) => (s.inWorld w, .poolError error)
          | (w, .ok c) => ({ s.inWorld w with guards := s.guards.insert save c }, .done)
  | .shutDown pool => s.withPool pool fun p => (s.inWorld (s.world.shutDown p), .done)
  | .sweep pool =>
      s.withPool pool fun p =>
        let (w, count) := s.world.sweep p
        (s.inWorld w, .count count)
  | .inspect pool => s.withPool pool fun p => (s, .pool (poolReport s.world p))

/-- A view of a checkout. -/
def guardReport (w : World) (c : ConnectionId) : GuardReport :=
  let connection := w.connection c
  let pool := (w.pool connection.pool).config.name
  { metadata := connection.metadata
    age := connection.metadata.age w.now
    rest := connection.metadata.rest w.now
    pool := pool
    description := Text.record "PooledConnectionGuard"
      [("pool", Text.quote pool),
        ("connection", Text.optional (some (toString connection.metadata.number)))] }

/-- A view of a connection. -/
def connectionReport (w : World) (c : ConnectionId) : ConnectionReport where
  description := (w.connection c).describe
  valid := w.isConnectionValid c
  attributes := (w.connection c).describeAttributes

/-- A view of a store. -/
def storeReport (store : Store) : StoreReport where
  keys := (store.entries.keys.map CacheKey.render).mergeSort fun a b => !decide (b < a)
  empty := store.entries.isEmpty
  description := store.describe

/-- Make a call on a connection, and treat its answer as asked. -/
def runCall (s : Session) (c : ConnectionId) (call : Call) (into : Into) (save : Option Name) :
    Outcome :=
  match into with
  | .shown =>
      match s.world.perform c call with
      | (w, .error error) => (s.inWorld w, .poolError error)
      | (w, .ok response) => (s.inWorld (w.dropResponse response), .text response.describe)
  | .truth =>
      match s.world.performForTruth c call with
      | (w, .error error) => (s.inWorld w, .poolError error)
      | (w, .ok value) => (s.inWorld w, .truth value)
  | .statement =>
      match s.world.performForStatement c call with
      | (w, .error error) => (s.inWorld w, .poolError error)
      | (w, .ok statement) => ((s.inWorld w).keepStatement save statement (.call c), .done)

/-- Do a command about connections. -/
def runConnection (s : Session) : ConnectionCommand → Outcome
  | .checkIn guard =>
      s.withGuard guard fun c =>
        ({ s.inWorld (s.world.checkIn c) with guards := s.guards.erase guard }, .done)
  | .retire guard =>
      s.withGuard guard fun c =>
        ({ s.inWorld (s.world.retire c) with guards := s.guards.erase guard }, .done)
  | .share guard save =>
      s.withFresh save (s.shared.contains save) fun _ =>
        s.withGuard guard fun c =>
          ({ s.inWorld (s.world.share c) with shared := s.shared.insert save c }, .done)
  | .unshare shared =>
      s.withShared shared fun c =>
        ({ s.inWorld (s.world.unshare c) with shared := s.shared.erase shared }, .done)
  | .prepare guard call save =>
      s.withFreshStatement save fun _ =>
        s.withGuard guard fun c => s.runCall c call .statement save
  | .isValid guard => s.withGuard guard fun c => s.runCall c ⟨.isValid, []⟩ .truth none
  | .invoke via request into save =>
      s.withFreshStatement save fun _ =>
        s.withCall request fun call =>
          s.withTarget via fun c => s.runCall c call into save
  | .inspectGuard guard => s.withGuard guard fun c => (s, .guard (guardReport s.world c))
  | .inspectConnection via =>
      s.withConnection via fun c => (s, .connection (connectionReport s.world c))
  | .inspectStore via =>
      s.withConnection via fun c =>
        match (s.world.connection c).store? with
        | none => (s, .nothing)
        | some store => (s, .store (storeReport store))

end Session

end ConnectionPool
