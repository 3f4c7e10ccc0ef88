import ConnectionPool.Pool.Config

/-!
# Requests

What a client writes where the library needs a value that can be wrong: an operation by its
name, properties on a line. Each request is read into the value it stands for, or into the
error that it deserves.
-/

set_option autoImplicit false

namespace ConnectionPool

/-- A call, with its operation by name. -/
structure CallRequest where
  method : String
  args : List Arg
  deriving DecidableEq, Repr

/-- The call that is asked for. -/
def CallRequest.read (request : CallRequest) : Except PoolError Call :=
  (Method.read request.method).map fun method => ⟨method, request.args⟩

/-- A caching policy: a standard one, or the one on a line of properties, with some of its
settings replaced. -/
structure PolicyRequest where
  /-- Start from the policy that keeps nothing. -/
  disabled : Bool := false
  /-- The line of properties to start from instead. -/
  line : Option String := none
  prepared : Option Bool := none
  callable : Option Bool := none
  limit : Option Nat := none
  deriving DecidableEq, Repr

/-- The policy that is asked for. -/
def PolicyRequest.read (request : PolicyRequest) : Except PoolError CachePolicy := do
  let base ← match request.line with
    | some line => (Properties.parse line).map CachePolicy.ofProperties
    | none => .ok (if request.disabled then .disabled else {})
  .ok {
    prepared := request.prepared.getD base.prepared
    callable := request.callable.getD base.callable
    limit := request.limit.getD base.limit }

/-- The definition of an interceptor, with its properties on a line and more of them one by
one. -/
structure DefinitionRequest where
  name : String
  role : Role Bool := .pass
  line : Option String := none
  more : List (String × String) := []
  refusals : List Nat := []
  deriving DecidableEq, Repr

/-- The definition that is asked for. -/
def DefinitionRequest.read (request : DefinitionRequest) : Except PoolError Definition := do
  let properties ← match request.line with
    | some line => Properties.parse line
    | none => .ok Table.empty
  .ok {
    name := request.name
    role := request.role
    properties := request.more.foldl (fun set entry => set.insert entry.1 entry.2) properties
    refusals := request.refusals }

/-- The configuration of a pool, with its definitions still to be read. -/
structure PoolRequest where
  /-- The configuration without its definitions. -/
  config : PoolConfig := {}
  interceptors : List DefinitionRequest := []

/-- The configuration that is asked for. -/
def PoolRequest.read (request : PoolRequest) : Except PoolError PoolConfig := do
  let interceptors ← request.interceptors.mapM DefinitionRequest.read
  .ok { request.config with interceptors }

end ConnectionPool
