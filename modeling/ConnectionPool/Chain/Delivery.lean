import ConnectionPool.Cache.Hooks

/-!
# Hooks through a chain

A hook is delivered to a list of interceptors in order (`tell`). Each delivery is noted in the
journal with what the receiver can see, and then the receiver acts on it.
-/

set_option autoImplicit false

namespace ConnectionPool

namespace World

/-- What an interceptor does when a hook of a pool is delivered. Only caches act. -/
def react (p : PoolId) (interceptor : Interceptor) (hook : Hook) (w : World) : World :=
  match interceptor.role, hook with
  | .cache _, .poolStarted => w.startCounting p
  | .cache _, .poolClosed => w.stopCounting p
  | .cache k, .attached c => w.attach k p c
  | .cache k, .disconnected c _ => w.drain k p c
  | .cache k, .detached _ => w.detach k
  | _, _ => w

/-- Note a hook and let the interceptor act. -/
def deliver (p : PoolId) (hook : Hook) (receiver : Receiver) (interceptor : Interceptor)
    (w : World) : World :=
  react p interceptor hook
    (w.note receiver interceptor (.hook hook (w.sight p hook.connection?)))

/-- Deliver a hook to a list of interceptors in order. -/
def tell (p : PoolId) (hook : Hook) (receiver : Nat → Receiver) (interceptors : List Interceptor)
    (w : World) : World :=
  interceptors.zipIdx.foldl (fun w entry => deliver p hook (receiver entry.2) entry.1 w) w

/-- Deliver a hook to the chain of a connection. -/
def tellChain (w : World) (c : ConnectionId) (hook : Hook) : World :=
  tell (w.connection c).pool hook (Receiver.link c) (w.connection c).chain w

/-- Deliver a hook to the listeners of a pool. -/
def tellListeners (w : World) (p : PoolId) (hook : Hook) : World :=
  tell p hook (Receiver.listener p) (w.pool p).listeners w

end World

end ConnectionPool
