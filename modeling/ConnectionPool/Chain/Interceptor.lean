import ConnectionPool.Cache.Policy
import ConnectionPool.Statement.Handle

/-!
# Interceptors

An interceptor is a link of the chain that every call on a connection passes, and it is told
of the events in the life of its pool and its connection. A pool is configured with a list of
definitions; from each it makes one interceptor that listens to the pool and one for every
connection it opens.

A definition can refuse to make an interceptor at given attempts, which are counted from 1
over the life of the pool.
-/

set_option autoImplicit false

namespace ConnectionPool

/-- **The operations an interceptor acts on**: the one of a given name, or all without a name.
A name that no operation bears covers none. -/
abbrev Scope := Option String

/-- Whether a scope covers an operation. -/
def Scope.covers (scope : Scope) (method : Method) : Bool := scope.all (· == method.word)

/-- **What an interceptor does with a call.** The roles with a scope act on the operations it
covers, and otherwise pass the call on. `γ` is what a caching interceptor refers to. -/
inductive Role (γ : Type)
  /-- Passes every call on. -/
  | pass
  /-- Passes every call on, and reports all it sees. -/
  | trace
  /-- Answers with a truth value. -/
  | answerTruth (scope : Scope) (value : Bool)
  /-- Answers with a new statement of the driver. -/
  | answerStatement (scope : Scope)
  /-- Fails. -/
  | reject (scope : Scope)
  /-- Passes the call on with one more flag. -/
  | appendFlag (scope : Scope)
  /-- Answers from a cache of statements, and fills it. -/
  | cache (cache : γ)
  deriving DecidableEq, Repr

/-- The flag that an appending interceptor adds. -/
def appendedFlag : Arg := .int 7

/-- **An interceptor**: its name and its role. -/
structure Interceptor where
  name : String
  role : Role CacheId
  deriving DecidableEq, Repr

/-- The name of every caching interceptor. -/
def cachingName : String := "StatementCache"

/-- **The definition of an interceptor.** A caching role says whether the wrapping of
statements can be made to fail. -/
structure Definition where
  name : String
  role : Role Bool
  properties : Properties := Table.empty
  /-- The attempts at which no interceptor is made. -/
  refusals : List Nat := []

namespace Definition

/-- The name of the interceptors made from a definition: the property `label` where it is
set, except for a cache. -/
def instanceName (definition : Definition) : String :=
  match definition.role with
  | .cache _ => cachingName
  | _ => (definition.properties.get? "label").getD definition.name

/-- The printed form. -/
def describe (definition : Definition) : String :=
  Text.record "InterceptorDefinition"
    [("name", Text.quote definition.name), ("properties", definition.properties.describe)]

end Definition

/-- A definition with the number of attempts made at it so far. -/
structure Source where
  definition : Definition
  attempts : Nat := 0

namespace Source

/-- The source after one more attempt. -/
def attempt (source : Source) : Source :=
  { source with attempts := source.attempts + 1 }

/-- Whether the last attempt was refused. -/
def refused (source : Source) : Bool :=
  source.definition.refusals.contains source.attempts

/-- The sources after one attempt at each in order, up to the first that refuses. -/
def attemptAll : List Source → List Source × Except PoolError Unit
  | [] => ([], .ok ())
  | source :: rest =>
      let source := source.attempt
      if source.refused then
        (source :: rest, .error (.configuration (.refusedInterceptor source.definition.name)))
      else
        let (rest, verdict) := attemptAll rest
        (source :: rest, verdict)

end Source

end ConnectionPool
