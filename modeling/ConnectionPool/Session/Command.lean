import ConnectionPool.Session.Request

/-!
# Commands

What a client of a session can do, step by step. A client names what it holds: pools, checked
out connections, shared connections, statements, connections of the driver, caches and tracked
statements have names of their own sorts. A command that makes something may give it a name;
`save` is that name where it may be missing, and what is not named is let go of at once.

A client keeps the pools that it starts for as long as it lives: no command lets go of one. What goes
with a pool that is let go of, its idle connections and their stores, is left out.
-/

set_option autoImplicit false

namespace ConnectionPool

/-- The name by which a client holds something. -/
abbrev Name := String

/-- **A fault to be switched.** -/
inductive Switch
  /-- Closing a statement with this text fails from now on. -/
  | statementClosing (sql : String)
  | clearing (fails : Bool)
  | resultSetClosing (fails : Bool)
  | validity (valid : Bool)
  | connectionClosing (fails : Bool)
  /-- So many attempts to connect will fail. -/
  | connect (count : Nat)
  /-- So many wrappings of statements will fail. -/
  | wrap (count : Nat)
  deriving DecidableEq, Repr

/-- A connection, by the checkout or by the shared connection. -/
inductive Via
  | guard (name : Name)
  | shared (name : Name)
  deriving DecidableEq, Repr

/-- What becomes of the answer to a call. -/
inductive Into
  /-- It is shown and let go of. -/
  | shown
  /-- It must be a truth value. -/
  | truth
  /-- It must be a statement, which is kept. -/
  | statement
  deriving DecidableEq, Repr

/-- Commands about pools. -/
inductive PoolCommand
  | start (save : Name) (request : PoolRequest)
  | checkOut (pool : Name) (save : Name)
  | shutDown (pool : Name)
  | sweep (pool : Name)
  | inspect (pool : Name)

/-- Commands about checked out and shared connections. -/
inductive ConnectionCommand
  /-- Return a connection to its pool. -/
  | checkIn (guard : Name)
  /-- Take a connection out of its pool. -/
  | retire (guard : Name)
  /-- Hold a connection beyond its checkout. -/
  | share (guard : Name) (save : Name)
  | unshare (shared : Name)
  /-- Make a call that must be answered with a statement. -/
  | prepare (guard : Name) (call : Call) (save : Option Name)
  /-- Ask whether a connection is valid, through its chain. -/
  | isValid (guard : Name)
  | invoke (via : Via) (request : CallRequest) (into : Into) (save : Option Name)
  | inspectGuard (guard : Name)
  | inspectConnection (via : Via)
  | inspectStore (via : Via)
  deriving DecidableEq, Repr

/-- Commands about statements. -/
inductive StatementCommand
  | bind (statement : Name) (position : Nat) (value : Arg)
  | clearParameters (statement : Name)
  | execute (statement : Name)
  | resultSet (statement : Name)
  | closeResultSet (statement : Name)
  | close (statement : Name)
  | drop (statement : Name)
  | forceClose (statement : Name)
  | inspect (statement : Name)
  deriving DecidableEq, Repr

/-- Commands to the driver itself. -/
inductive DriverCommand
  | looseStatement (sql : String) (save : Option Name)
  | openConnection (save : Name)
  | prepareStatement (connection : Name) (args : List Arg) (save : Option Name)
  | prepareCall (connection : Name) (args : List Arg) (save : Option Name)
  | createStatement (connection : Name) (save : Option Name)
  | isValid (connection : Name)
  | close (connection : Name)
  | inspectLog (statement : Option StatementId)
  deriving DecidableEq, Repr

/-- Where a statement given to a cache comes from: one that the client holds, or a new one of
the driver with this text. -/
inductive StatementSource
  | held (statement : Name)
  | fresh (sql : String)
  deriving DecidableEq, Repr

/-- Commands to caches that the client holds itself. -/
inductive CacheCommand
  | create (save : Name) (request : PolicyRequest) (fallible : Bool)
  | clone (cache : Name) (save : Name)
  | drop (cache : Name)
  | poolStarted (pool : Name) (cache : Name)
  | poolClosed (pool : Name) (cache : Name)
  | attach (pool : Name) (cache : Name) (via : Via)
  | drain (pool : Name) (cache : Name) (via : Via)
  | detach (cache : Name)
  | keyFor (cache : Name) (request : CallRequest)
  | fetch (cache : Name) (request : CallRequest) (save : Option Name)
  | track (cache : Name) (request : CallRequest) (source : StatementSource) (save : Name)
  | wrapPrepared (cache : Name) (request : CallRequest) (source : StatementSource)
      (save : Option Name)
  /-- Park a tracked statement; `keep` says whether a refused one stays with the client. -/
  | offer (cache : Name) (tracked : Name) (keep : Bool)
  | withdraw (cache : Name) (request : CallRequest) (save : Option Name)
  | inspect (cache : Name)
  deriving DecidableEq, Repr

/-- Commands about tracked statements. -/
inductive TrackedCommand
  | close (tracked : Name)
  | forceClose (tracked : Name)
  | drop (tracked : Name)
  | inspect (tracked : Name)
  | bind (tracked : Name) (position : Nat) (value : Arg)
  | execute (tracked : Name)
  | closeDelegate (tracked : Name)
  /-- Put a facade before a tracked statement. -/
  | facade (tracked : Name) (save : Option Name)
  deriving DecidableEq, Repr

/-- **A command.** -/
inductive Command
  /-- Let time pass. -/
  | advance (span : Millis)
  | switch (fault : Switch)
  | pool (command : PoolCommand)
  | connection (command : ConnectionCommand)
  | statement (command : StatementCommand)
  | driver (command : DriverCommand)
  | cache (command : CacheCommand)
  | tracked (command : TrackedCommand)

end ConnectionPool
