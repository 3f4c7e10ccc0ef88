import ConnectionPool.Cache.Key
import ConnectionPool.Driver.Event

/-!
# Statement handles

A client sees a statement through a handle: the driver's statement itself, or a facade that
hands its statement back to a cache when it is closed. A facade may stand in front of another
facade, one for each cache of a chain. Once it has given its statement up, a facade is spent
and reaches nothing.

A tracked statement is what a cache parks and what a facade holds: a handle together with its
key and the cache it belongs to.
-/

set_option autoImplicit false

namespace ConnectionPool

/-- The number of a cache. -/
abbrev CacheId := Nat

/-- **A statement handle.** -/
inductive Statement
  /-- The driver's statement itself. -/
  | physical (id : StatementId)
  /-- A facade of `cache` before another handle. Without a key the statement is never kept. -/
  | facade (key : Option CacheKey) (cache : CacheId) (inner : Statement)
  /-- A facade that has given up its statement. -/
  | spent
  deriving DecidableEq, Repr

instance : Inhabited Statement := ⟨.spent⟩

/-- **A tracked statement**: a handle with its key and the cache it belongs to. -/
structure Tracked where
  key : Option CacheKey
  cache : CacheId
  delegate : Statement
  deriving DecidableEq, Repr

namespace Tracked

/-- The facade in front of a tracked statement. -/
def facade (tracked : Tracked) : Statement :=
  .facade tracked.key tracked.cache tracked.delegate

/-- The printed form. A tracked statement holds its handle for as long as it lives. -/
def describe (tracked : Tracked) : String :=
  Text.record "CachedStatement"
    [("key", Text.optional (tracked.key.map CacheKey.describe)), ("open", Text.truth true)]

end Tracked

namespace Statement

/-- The driver's statement that a handle reaches. -/
def target? : Statement → Option StatementId
  | physical id => some id
  | facade _ _ inner => inner.target?
  | spent => none

/-- What a facade holds. -/
def tracked? : Statement → Option Tracked
  | facade key cache inner => some ⟨key, cache, inner⟩
  | _ => none

/-- The handle after it was closed: a facade is spent, the driver's statement stays. -/
def afterClose : Statement → Statement
  | physical id => physical id
  | _ => spent

/-- The printed form of a facade. -/
def describe (statement : Statement) : String :=
  Text.record "StatementFacade"
    [("statement", Text.optional (statement.tracked?.map Tracked.describe))]

end Statement

/-- **The answer to a call.** -/
inductive Response
  | statement (handle : Statement)
  | truth (value : Bool)
  deriving DecidableEq, Repr

/-- The printed form of an answer. -/
def Response.describe : Response → String
  | statement _ => "Response::Statement(..)"
  | truth value => "Response::Bool(" ++ Text.truth value ++ ")"

end ConnectionPool
