import ConnectionPool.Cache.Basic

/-!
# Calls through a chain

A call enters the first interceptor of a connection's chain, and each one answers it or hands
it, perhaps changed, to the rest; at the end of the chain stands the driver's connection
(`send`).
-/

set_option autoImplicit false

namespace ConnectionPool

/-- The answer to a call, as its caller gets it. -/
abbrev Answer := Except PoolError Response

/-- An answer that must be a statement. -/
def Response.asStatement : Response → Except PoolError Statement
  | statement handle => .ok handle
  | truth _ => .error (.invalidArgument .notAStatement)

/-- An answer that must be a truth value. -/
def Response.asTruth : Response → Except PoolError Bool
  | truth value => .ok value
  | statement _ => .error (.invalidArgument .notABoolean)

/-- The error of a rejecting interceptor. -/
def rejected : DriverError := ⟨"rejected", none⟩

namespace World

/-- The driver's answer with the driver's error made an error of the pool. -/
def answered (result : Except DriverError StatementId) : Answer :=
  match result with
  | .ok id => .ok (.statement (.physical id))
  | .error error => .error (.driver error)

/-- Hand a call to the driver's connection. -/
def ask (w : World) (c : ConnectionId) (call : Call) : World × Answer :=
  let id := (w.connection c).physical
  if (w.connection c).closed then (w, .error .connectionClosed)
  else
    match call.method with
    | .prepareStatement =>
        let (w, result) := w.onDriver fun driver => driver.prepareStatement id call.args
        (w, answered result)
    | .prepareCall =>
        let (w, result) := w.onDriver fun driver => driver.prepareCall id call.args
        (w, answered result)
    | .createStatement =>
        let (w, result) := w.onDriver fun driver => driver.createStatement id
        (w, answered result)
    | .isValid => (w, .ok (.truth (w.driver.isValid id)))

/-- Hand a call to `next` and put a facade of a cache before the statement it answers with.
Any other answer passes. -/
def fill (k : CacheId) (next : Call → World → World × Answer) (call : Call) (w : World) :
    World × Answer :=
  match next call w with
  | (w, .ok (.statement statement)) =>
      match w.wrapPrepared k statement call with
      | (w, .ok facade) => (w, .ok (.statement facade))
      | (w, .error error) => (w, .error (.driver error))
  | other => other

/-- What a caching interceptor does with a call: answer it with the statement parked for it,
or fill the cache from `next`. A parked statement that cannot be given a facade counts as
missing. -/
def serve (k : CacheId) (next : Call → World → World × Answer) (call : Call) (w : World) :
    World × Answer :=
  if call.method.prepares then
    match w.fetch k call with
    | (w, .error error) => (w, .error error)
    | (w, .ok none) => fill k next call w
    | (w, .ok (some tracked)) =>
        match w.wrap k tracked with
        | (w, .ok facade) => (w, .ok (.statement facade))
        | (w, .error _) => fill k next call w
  else next call w

/-- What an interceptor does with a call, where `next` is the rest of the chain. -/
def handle (interceptor : Interceptor) (next : Call → World → World × Answer) (call : Call)
    (w : World) : World × Answer :=
  match interceptor.role with
  | .pass => next call w
  | .trace => next call w
  | .answerTruth scope value =>
      if scope.covers call.method then (w, .ok (.truth value)) else next call w
  | .answerStatement scope =>
      if scope.covers call.method then
        let (w, id) := w.onDriver fun driver => driver.looseStatement "answered"
        (w, .ok (.statement (.physical id)))
      else next call w
  | .reject scope =>
      if scope.covers call.method then
        (w, .error (.interceptor interceptor.name (.driver rejected)))
      else next call w
  | .appendFlag scope =>
      if scope.covers call.method then
        next { call with args := call.args ++ [appendedFlag] } w
      else next call w
  | .cache k => serve k next call w

/-- **Send a call down a chain**, whose first interceptor has the given position. -/
def send (c : ConnectionId) : List Interceptor → Nat → Call → World → World × Answer
  | [], _, call, w => w.ask c call
  | interceptor :: rest, position, call, w =>
      let receiver := Receiver.link c position
      let number := (w.connection c).metadata.number
      let w := w.note receiver interceptor (.enter call rest.length number)
      let (w, answer) := handle interceptor (send c rest (position + 1)) call w
      (w.note receiver interceptor (.leave call answer), answer)

/-- **Make a call on a connection.** -/
def perform (w : World) (c : ConnectionId) (call : Call) : World × Answer :=
  send c (w.connection c).chain 0 call w

/-- Make a call that must be answered with a statement. -/
def performForStatement (w : World) (c : ConnectionId) (call : Call) :
    World × Except PoolError Statement :=
  match w.perform c call with
  | (w, .ok response) => (w, response.asStatement)
  | (w, .error error) => (w, .error error)

/-- Make a call that must be answered with a truth value. A statement that comes instead is
let go of. -/
def performForTruth (w : World) (c : ConnectionId) (call : Call) :
    World × Except PoolError Bool :=
  match w.perform c call with
  | (w, .ok response) => (w.dropResponse response, response.asTruth)
  | (w, .error error) => (w, .error error)

end World

end ConnectionPool
