import ConnectionPool.Cache.Parking

/-!
# The statement cache

What a cache does for its callers: find the statement parked for a call, put a facade before a
statement, park a statement on request and withdraw one. A cache that is attached to no
connection finds nothing and parks nothing.
-/

set_option autoImplicit false

namespace ConnectionPool

namespace World

/-- The error of a wrapping that was made to fail. -/
def wrapFailed : DriverError := ⟨"wrap failed", some "HY000"⟩

/-- A new cache, attached to nothing. -/
def newCache (w : World) (policy : CachePolicy) (fallible : Bool) : World × CacheId :=
  ({ w with caches := w.caches.register { policy, fallible } }, w.caches.next)

/-- A statement tracked by a cache, without a facade. -/
def track (k : CacheId) (key : Option CacheKey) (statement : Statement) : Tracked :=
  { key, cache := k, delegate := statement }

/-- **Find the statement parked for a call.** It leaves the store, and its slot is given back.
A call that is not eligible, or carries no text, is not looked up and not tallied. -/
def fetch (w : World) (k : CacheId) (call : Call) :
    World × Except PoolError (Option Tracked) :=
  let cache := w.cache k
  if !cache.policy.keeps call.method || call.sql?.isNone then (w, .ok none)
  else
    match cache.policy.keyFor call with
    | none => (w, .error (.interceptor cachingName (.invalidKey call.method)))
    | some key =>
        match cache.binding with
        | none => (w, .ok none)
        | some binding =>
            let store := w.store binding.connection
            match store.entries.get? key with
            | some tracked =>
                ((w.releaseSlot binding.counter).setStore binding.connection
                  (store.remove key).recordHit, .ok (some tracked))
            | none => (w.setStore binding.connection store.recordMiss, .ok none)

/-- Put a facade before a tracked statement. Where this fails the statement is let go of. -/
def wrap (w : World) (k : CacheId) (tracked : Tracked) : World × Except DriverError Statement :=
  match (w.cache k).fallible, w.wrapFaults with
  | true, due + 1 => ({ w with wrapFaults := due }.dropTracked tracked, .error wrapFailed)
  | _, _ => (w, .ok tracked.facade)

/-- Put a facade before a statement that was prepared for a call. A statement whose call is
not eligible gets a facade without a key. -/
def wrapPrepared (w : World) (k : CacheId) (statement : Statement) (call : Call) :
    World × Except DriverError Statement :=
  w.wrap k (track k ((w.cache k).policy.keyFor call) statement)

/-- Park a tracked statement on request. The answer is the reason where it is refused; the
statement then stays with the caller as it was. -/
def offer (w : World) (k : CacheId) (tracked : Tracked) : World × Option RejectReason :=
  match (w.cache k).binding with
  | none => (w, some .unbound)
  | some binding => w.offerTo (w.cache k).policy binding tracked

/-- Withdraw the statement parked under a key, giving back its slot. -/
def withdraw (w : World) (k : CacheId) (key : CacheKey) : World × Option Tracked :=
  match (w.cache k).binding with
  | none => (w, none)
  | some binding =>
      let store := w.store binding.connection
      match store.entries.get? key with
      | none => (w, none)
      | some tracked =>
          ((w.setStore binding.connection (store.remove key)).releaseSlot binding.counter,
            some tracked)

end World

end ConnectionPool
