import ConnectionPool.Statement.Use

/-!
# Parking statements

A statement handed back to its cache is parked in the store of the connection that the cache
is attached to, or closed. `offerTo` is the one way into a store, and `close` is what happens
to a handle when its holder closes it: the facade gives its statement to the cache, and if it
cannot be parked the statement underneath is closed in turn, which may be a facade of another
cache.
-/

set_option autoImplicit false

namespace ConnectionPool

namespace World

/-- Park a tracked statement in the store that `binding` names, taking a slot of its counter.
The answer is the reason where the statement is not parked, and then nothing changes. -/
def offerTo (w : World) (policy : CachePolicy) (binding : Binding) (tracked : Tracked) :
    World × Option RejectReason :=
  match tracked.key with
  | none => (w, some .noKey)
  | some key =>
      let store := w.store binding.connection
      if store.entries.contains key then (w, some .duplicate)
      else
        match binding.counter with
        | none => (w, some .unbound)
        | some n =>
            match (w.counter n).acquire? policy.limit with
            | none => (w, some .full)
            | some counter =>
                if store.closed then (w, some .unbound)
                else
                  ((w.updateCounter n fun _ => counter).setStore binding.connection
                    (store.park key tracked), none)

/-- Whether a binding has a counter below the limit. -/
def hasRoom (w : World) (policy : CachePolicy) (binding : Binding) : Bool :=
  binding.counter.any fun n => decide ((w.counter n).count < policy.limit)

/-- Take back a statement that its holder has closed: reset it and park it. The answer is
whether it was parked; if not, it is left to be closed. -/
def takeBack (w : World) (tracked : Tracked) : World × Bool :=
  let cache := w.cache tracked.cache
  match tracked.key, cache.binding with
  | some _, some binding =>
      if w.hasRoom cache.policy binding then
        match w.reset tracked.delegate with
        | (w, .error _) => (w, false)
        | (w, .ok ()) =>
            let (w, refusal) := w.offerTo cache.policy binding tracked
            (w, refusal.isNone)
      else (w, false)
  | _, _ => (w, false)

/-- **Close a handle.** The driver's statement is closed, and its failure is reported. A
facade hands its statement back, closes it if it is not parked, and never fails; a spent one
does nothing. -/
def close : Statement → World → World × Except DriverError Unit
  | .physical id, w => w.onDriver fun driver => driver.closeStatement id
  | .spent, w => (w, .ok ())
  | .facade key cache inner, w =>
      match w.takeBack ⟨key, cache, inner⟩ with
      | (w, true) => (w, .ok ())
      | (w, false) => ((close inner w).1, .ok ())

/-- Close a tracked statement: park it, or close what it holds. -/
def closeTracked (w : World) (tracked : Tracked) : World := (close tracked.facade w).1

/-- Close what a tracked statement holds, without parking it here. -/
def forceClose (w : World) (tracked : Tracked) : World × Except DriverError Unit :=
  close tracked.delegate w

/-- Let go of a tracked statement, which closes what it holds. -/
def dropTracked (w : World) (tracked : Tracked) : World := (w.forceClose tracked).1

/-- Close what a facade holds and leave it spent; a spent facade does nothing. -/
def forceCloseFacade (w : World) (statement : Statement) : World × Except DriverError Unit :=
  match statement.tracked? with
  | none => (w, .ok ())
  | some tracked => w.forceClose tracked

/-- Let go of a handle: a facade is closed, the driver's statement is left as it is. -/
def dropHandle (w : World) (statement : Statement) : World :=
  match statement.tracked? with
  | none => w
  | some tracked => w.closeTracked tracked

/-- Let go of an answer. -/
def dropResponse (w : World) : Response → World
  | .statement statement => w.dropHandle statement
  | .truth _ => w

end World

end ConnectionPool
