import ConnectionPool.Chain.Travel
import ConnectionPool.Pool.Checkout
import ConnectionPool.Session.Reply

/-!
# Sessions

A session is a world together with everything a client holds in it by name. Whoever leaves
the session in a table of handles is alive; taking a handle out of its table and letting go of
it is one step.
-/

set_option autoImplicit false

namespace ConnectionPool

/-- Where a client's statement came from. -/
inductive Origin
  /-- It is the answer to a call on a connection. -/
  | call (connection : ConnectionId)
  /-- A connection of the driver made it. -/
  | driver
  /-- A cache that the client holds gave it a facade. -/
  | cache (cache : CacheId)
  /-- The client put a facade before a tracked statement. -/
  | facade
  /-- The client asked the driver for it. -/
  | loose
  deriving DecidableEq, Repr

/-- A statement that a client holds. -/
structure Held where
  statement : Statement
  origin : Origin
  deriving DecidableEq, Repr

/-- **A session.** -/
structure Session where
  world : World := {}
  pools : Table (fun _ : Name => PoolId) := .empty
  /-- The connections checked out. -/
  guards : Table (fun _ : Name => ConnectionId) := .empty
  /-- The connections held beyond their checkout. -/
  shared : Table (fun _ : Name => ConnectionId) := .empty
  statements : Table (fun _ : Name => Held) := .empty
  /-- The connections of the driver. -/
  raw : Table (fun _ : Name => PhysicalConnectionId) := .empty
  caches : Table (fun _ : Name => CacheId) := .empty
  tracked : Table (fun _ : Name => Tracked) := .empty

namespace Session

/-- What a command leads to: the session after it, and the reply. -/
abbrev Outcome := Session × Reply

/-- A session with nothing in it. -/
def empty : Session := {}

instance : Inhabited Session := ⟨empty⟩

/-! ## Finding what a command names

Each of these goes on with what the name stands for, or ends the command with a reply that
the name is unknown. -/

/-- Go on with a pool. -/
def withPool (s : Session) (name : Name) (continue_ : PoolId → Outcome) : Outcome :=
  match s.pools.get? name with
  | some p => continue_ p
  | none => (s, .nameUnknown "pool" name)

/-- Go on with a checked out connection. -/
def withGuard (s : Session) (name : Name) (continue_ : ConnectionId → Outcome) : Outcome :=
  match s.guards.get? name with
  | some c => continue_ c
  | none => (s, .nameUnknown "guard" name)

/-- Go on with a shared connection. -/
def withShared (s : Session) (name : Name) (continue_ : ConnectionId → Outcome) : Outcome :=
  match s.shared.get? name with
  | some c => continue_ c
  | none => (s, .nameUnknown "conn" name)

/-- The connection that a client means. -/
def connection? (s : Session) : Via → Option ConnectionId
  | .guard name => s.guards.get? name
  | .shared name => s.shared.get? name

/-- Go on with a connection that is checked out or shared; the reply does not say which name
is unknown. -/
def withConnection (s : Session) (via : Via) (continue_ : ConnectionId → Outcome) : Outcome :=
  match s.connection? via with
  | some c => continue_ c
  | none => (s, .nameUnknown "conn" "")

/-- Go on with a connection for a call; the reply says which name is unknown. -/
def withTarget (s : Session) (via : Via) (continue_ : ConnectionId → Outcome) : Outcome :=
  match via with
  | .guard name => s.withGuard name continue_
  | .shared name => s.withShared name continue_

/-- Go on with a statement. -/
def withStatement (s : Session) (name : Name) (continue_ : Held → Outcome) : Outcome :=
  match s.statements.get? name with
  | some held => continue_ held
  | none => (s, .nameUnknown "stmt" name)

/-- Go on with a connection of the driver. -/
def withRaw (s : Session) (name : Name) (continue_ : PhysicalConnectionId → Outcome) : Outcome :=
  match s.raw.get? name with
  | some id => continue_ id
  | none => (s, .nameUnknown "raw" name)

/-- Go on with a cache. -/
def withCache (s : Session) (name : Name) (continue_ : CacheId → Outcome) : Outcome :=
  match s.caches.get? name with
  | some k => continue_ k
  | none => (s, .nameUnknown "cache" name)

/-- Go on with a tracked statement. -/
def withTracked (s : Session) (name : Name) (continue_ : Tracked → Outcome) : Outcome :=
  match s.tracked.get? name with
  | some tracked => continue_ tracked
  | none => (s, .nameUnknown "cached" name)

/-- Go on if a name is free, as `taken` says. -/
def withFresh (s : Session) (name : Name) (taken : Bool) (continue_ : Unit → Outcome) : Outcome :=
  if taken then (s, .nameTaken name) else continue_ ()

/-- Go on if a name for a statement is missing or free. -/
def withFreshStatement (s : Session) (save : Option Name) (continue_ : Unit → Outcome) :
    Outcome :=
  match save with
  | none => continue_ ()
  | some name => s.withFresh name (s.statements.contains name) continue_

/-- Go on if a name for a tracked statement is missing or free. -/
def withFreshTracked (s : Session) (save : Option Name) (continue_ : Unit → Outcome) :
    Outcome :=
  match save with
  | none => continue_ ()
  | some name => s.withFresh name (s.tracked.contains name) continue_

/-- Go on with the call that a request asks for. -/
def withCall (s : Session) (request : CallRequest) (continue_ : Call → Outcome) : Outcome :=
  match request.read with
  | .ok call => continue_ call
  | .error error => (s, .poolError error)

/-! ## Keeping and letting go -/

/-- The session after the world has changed. -/
def inWorld (s : Session) (w : World) : Session := { s with world := w }

/-- Keep a statement under its name, or let go of it. -/
def keepStatement (s : Session) (save : Option Name) (statement : Statement) (origin : Origin) :
    Session :=
  match save with
  | some name => { s with statements := s.statements.insert name ⟨statement, origin⟩ }
  | none => { s with world := s.world.dropHandle statement }

/-- Keep a tracked statement under its name, or let go of it. -/
def keepTracked (s : Session) (save : Option Name) (tracked : Tracked) : Session :=
  match save with
  | some name => { s with tracked := s.tracked.insert name tracked }
  | none => { s with world := s.world.dropTracked tracked }

/-- The session with a statement as it is after something was done to it. -/
def putStatement (s : Session) (name : Name) (held : Held) : Session :=
  { s with statements := s.statements.insert name held }

/-- The session without a statement, which someone else holds now. -/
def takeStatement (s : Session) (name : Name) : Session :=
  { s with statements := s.statements.erase name }

/-- The session without a tracked statement, which someone else holds now. -/
def takeTracked (s : Session) (name : Name) : Session :=
  { s with tracked := s.tracked.erase name }

end Session

end ConnectionPool
