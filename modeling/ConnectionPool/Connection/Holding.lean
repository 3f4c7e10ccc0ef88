import ConnectionPool.Cache.Basic

/-!
# Who holds a connection

A connection is there as long as somebody holds it: the pool or a checkout until it is torn down,
and a client that shares it for as long as it likes. Its store is there as long as the connection
is, or a cache is attached to it. With the last of them the store goes, and every statement that
is still parked in it is closed; no slot is given back for it.
-/

set_option autoImplicit false

namespace ConnectionPool

namespace World

/-- Whether somebody holds the store of a connection. -/
def isHeld (w : World) (c : ConnectionId) : Bool :=
  !(w.connection c).isTornDown || w.shares.contains c
    || w.caches.any fun cache => cache.isAttachedTo c

/-- **Close what is parked on a connection**, unless somebody holds its store. -/
def forget (w : World) (c : ConnectionId) : World :=
  if w.isHeld c || (w.store c).entries.isEmpty then w
  else (w.store c).parked.foldl dropTracked (w.setStore c (w.store c).drained)

/-- Attach a cache to something else, or to nothing, and let go of the store that it was attached
to.

What the cache is attached to is locked while the library does so. If that store goes, and a
statement parked there is a facade of this very cache, the facade would wait for the lock for ever.
Here it goes on, and sees what the cache is attached to afterwards. -/
def rebind (w : World) (k : CacheId) (binding : Option Binding) : World :=
  let after := w.updateCache k fun cache => { cache with binding }
  match (w.cache k).binding with
  | none => after
  | some earlier => after.forget earlier.connection

/-- Hold a connection beyond its checkout. -/
def share (w : World) (c : ConnectionId) : World :=
  { w with shares := c :: w.shares }

/-- Let go of a connection that was held beyond its checkout. -/
def unshare (w : World) (c : ConnectionId) : World :=
  forget { w with shares := w.shares.erase c } c

end World

end ConnectionPool
