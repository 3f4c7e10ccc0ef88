import ConnectionPool.Proofs.Custody.Rounds
import ConnectionPool.Proofs.Session.Still

/-!
# Moves of connections between pools and hands

Every operation of a pool is made up of a few moves: connections are opened, handed out, put back,
struck off and torn down. `Custody` is a world together with what is in somebody's hands, and
`Custody.Move` lists the moves, each with the signals that it adds (`Move.emits`). What is to hold
of pools and connections in every run is proved of one move, and follows for any number of them
(`Custody.Moves`).
-/

set_option autoImplicit false

namespace ConnectionPool

/-- What a pool keeps for good: its configuration and its listeners. -/
def Pool.charter (pool : Pool) : PoolConfig × List Interceptor := (pool.config, pool.listeners)

/-- **The custody of connections**: a world, and what somebody has in hand. -/
structure Custody where
  world : World
  /-- The connections that are checked out, and those that a pool is about to tear down. -/
  hands : Multiset ConnectionId
  /-- The lines of the driver that clients have opened for themselves. -/
  lines : PhysicalConnectionId → Prop
  /-- The pool that has closed but whose listeners do not know yet. -/
  due : Option PoolId := none

namespace Custody

/-- **The moves**, with what is signalled. -/
inductive Move (K : Custody) : List Signal → Custody → Prop
  /-- Nothing happens to pools and connections. -/
  | still {w : World} (h : K.world.Still w) : Move K [] { K with world := w }
  /-- Something is written in the books of a pool. -/
  | write (p : PoolId) {f : Pool → Pool} (hc : ∀ pool, (f pool).charter = pool.charter)
      (hs : ∀ pool, (f pool).closed = pool.closed) (hi : ∀ pool, (f pool).idle = pool.idle) :
      Move K [] { K with world := K.world.updatePool p f }
  /-- Idle connections are struck off. -/
  | strike (p : PoolId) {f : Pool → Pool} (l : List ConnectionId)
      (hc : ∀ pool, (f pool).charter = pool.charter) (hs : ∀ pool, (f pool).closed = pool.closed)
      (hi : (K.world.pool p).idle.Perm (l ++ (f (K.world.pool p)).idle)) :
      Move K [] { K with world := K.world.updatePool p f, hands := l + K.hands }
  /-- A pool closes, and all its idle connections are struck off. -/
  | shut (p : PoolId) {f : Pool → Pool} (hd : K.due = none)
      (ho : (K.world.pool p).closed = false) (hc : ∀ pool, (f pool).charter = pool.charter)
      (hs : ∀ pool, (f pool).closed = true) (hi : ∀ pool, (f pool).idle = []) :
      Move K [] { K with
        world := K.world.updatePool p f, hands := (K.world.pool p).idle + K.hands, due := some p }
  /-- The listeners of a pool hear that it has closed. -/
  | dismiss {p : PoolId} (hd : K.due = some p) :
      Move K ((K.world.pool p).round p .poolClosed)
        { K with world := K.world.tellListeners p .poolClosed, due := none }
  /-- A connection in hand is torn down. -/
  | tearDown (finalizing : Bool) {c : ConnectionId} {hands : Multiset ConnectionId}
      (hh : K.hands = c ::ₘ hands) (hl : K.world.Live c) :
      Move K ((K.world.connection c).farewell c finalizing)
        { K with world := World.teardown finalizing K.world c, hands }
  /-- A connection is opened for a pool. -/
  | enlist {p : PoolId} (hp : K.world.pools.Known p) (number : Nat) {chain : List Interceptor}
      (hn : chain.map Interceptor.name
        = (K.world.pool p).config.interceptors.map Definition.instanceName) :
      Move K [.opened K.world.driver.connections.next] { K with
        world := K.world.enlist p number chain
        hands := K.world.connections.next ::ₘ K.hands }
  /-- A line is opened for a pool that cannot use it, and closed again. -/
  | misdial :
      Move K [.opened K.world.driver.connections.next, .hungUp K.world.driver.connections.next]
        { K with world := { K.world with
          driver := K.world.driver.openConnection.1.closeConnection
            K.world.driver.connections.next } }
  /-- A client opens a line for itself. -/
  | dial : Move K [.opened K.world.driver.connections.next] { K with
      world := { K.world with driver := K.world.driver.openConnection.1 }
      lines := fun line => line = K.world.driver.connections.next ∨ K.lines line }
  /-- A client closes a line of its own. -/
  | cut {line : PhysicalConnectionId} (hl : K.lines line) :
      Move K (if (K.world.driver.connection line).closed then [] else [.hungUp line])
        { K with world := { K.world with driver := K.world.driver.closeConnection line } }
  /-- A connection in hand is handed out. -/
  | handOut {c : ConnectionId} (hh : c ∈ K.hands) (hl : K.world.Live c) :
      Move K
        ((K.world.connection c).welcome c ((K.world.connection c).metadata.checkouts + 1))
        { K with world := (K.world.updateMetadata c fun metadata =>
          metadata.checkOut K.world.now).tellChain c (.attached c) }
  /-- A connection in hand is put back into its pool. -/
  | putBack {c : ConnectionId} {hands : Multiset ConnectionId} {f : Pool → Pool}
      (hh : K.hands = c ::ₘ hands) (hl : K.world.Live c)
      (ho : (K.world.pool (K.world.connection c).pool).closed = false)
      (hc : ∀ pool, (f pool).charter = pool.charter) (hs : ∀ pool, (f pool).closed = pool.closed)
      (hi : ∀ pool, (f pool).idle = c :: pool.idle) :
      Move K [] { K with
        world := (K.world.updateMetadata c fun metadata =>
          metadata.checkIn K.world.now).updatePool (K.world.connection c).pool f
        hands }
  /-- A pool starts. -/
  | found {pool : Pool} (ho : pool.closed = false) (hi : pool.idle = [])
      (hn : pool.listeners.map Interceptor.name
        = pool.config.interceptors.map Definition.instanceName) :
      Move K (pool.round K.world.pools.next .poolStarted) { K with
        world := ({ K.world with pools := K.world.pools.register pool } : World).tellListeners
          K.world.pools.next .poolStarted }

/-- **Any number of moves**, with all that is signalled. -/
inductive Moves (K : Custody) : List Signal → Custody → Prop
  | refl : Moves K [] K
  | tail {K' K'' : Custody} {l l' : List Signal} (h : Moves K l K') (hm : Move K' l' K'') :
      Moves K (l ++ l') K''

variable {K K' K'' : Custody} {l l' : List Signal}

theorem Move.moves (h : Move K l K') : Moves K l K' := Moves.refl.tail h

theorem Moves.trans (h : Moves K l K') (h' : Moves K' l' K'') : Moves K (l ++ l') K'' := by
  induction h' with
  | refl =>
      rw [List.append_nil]
      exact h
  | tail _ hm ih =>
      rw [← List.append_assoc]
      exact ih.tail hm

/-- A silent move before others. -/
theorem Moves.head (hm : Move K [] K') (h : Moves K' l K'') : Moves K l K'' := hm.moves.trans h

/-- A silent move after others. -/
theorem Moves.silent (h : Moves K l K') (hm : Move K' [] K'') : Moves K l K'' := by
  have htail := h.tail hm
  rwa [List.append_nil] at htail

/-! ## What moves signal -/

theorem log_misdial (driver : Driver) :
    (driver.openConnection.1.closeConnection driver.connections.next).log = driver.log
      ++ [.connected driver.connections.next, .connectionClosed driver.connections.next] := by
  have hopen : (driver.openConnection.1.connection driver.connections.next).closed = false :=
    congrArg PhysicalConnection.closed (Registry.get_register_next _ _)
  rw [Driver.closeConnection, hopen]
  exact List.append_assoc driver.log _ _

theorem emits_misdial (w : World) :
    World.Emits [.opened w.driver.connections.next, .hungUp w.driver.connections.next] w
      { w with driver :=
        w.driver.openConnection.1.closeConnection w.driver.connections.next } :=
  World.emits_events
    [.connected w.driver.connections.next, .connectionClosed w.driver.connections.next]
    (log_misdial w.driver) rfl

theorem emits_handOut {w : World} {c : ConnectionId} (h : w.Live c) :
    World.Emits ((w.connection c).welcome c ((w.connection c).metadata.checkouts + 1)) w
      ((w.updateMetadata c fun metadata => metadata.checkOut w.now).tellChain c (.attached c)) := by
  obtain ⟨v, hv⟩ : ∃ v, v = w.updateMetadata c fun metadata => metadata.checkOut w.now := ⟨_, rfl⟩
  have hself : v.connection c
      = { w.connection c with metadata := (w.connection c).metadata.checkOut w.now } := by
    rw [hv, World.updateMetadata, World.connection_updateConnection, if_pos ⟨rfl, h.known⟩]
  have hwritten : World.Emits [] w v := World.emits_none (by rw [hv]; rfl) (by rw [hv]; rfl)
  have htold := hwritten.trans (v.emits_tellChain (.attached c) (c := c) rfl)
  have hseen : (v.connection c).sight = ⟨(w.connection c).metadata.number,
      (w.connection c).metadata.checkouts + 1, .inUse, false⟩ := by
    rw [hself, ← h.unclosed]
    rfl
  rw [hseen, hself, List.nil_append] at htold
  rw [← hv]
  exact htold

theorem emits_closeLine (w : World) (line : PhysicalConnectionId) :
    World.Emits (if (w.driver.connection line).closed then [] else [.hungUp line]) w
      { w with driver := w.driver.closeConnection line } := by
  unfold Driver.closeConnection
  split
  · exact .refl w
  · exact World.emits_events [.connectionClosed line] rfl rfl

theorem emits_found (w : World) (pool : Pool) :
    World.Emits (pool.round w.pools.next .poolStarted) w
      (({ w with pools := w.pools.register pool } : World).tellListeners w.pools.next
        .poolStarted) := by
  have htold := ({ w with pools := w.pools.register pool } : World).emits_tellListeners
    w.pools.next .poolStarted rfl
  have hnew : ({ w with pools := w.pools.register pool } : World).pool w.pools.next = pool :=
    Registry.get_register_next _ _
  rw [hnew] at htold
  exact (World.emits_none rfl rfl).trans htold

/-- **What a move signals.** -/
theorem Move.emits (h : Move K l K') : World.Emits l K.world K'.world := by
  cases h with
  | still h => exact h.silent
  | dismiss hd => exact World.emits_tellListeners _ _ .poolClosed rfl
  | tearDown finalizing hh hl => exact (World.tornDown_teardown hl finalizing).emits
  | enlist => exact World.emits_events [.connected K.world.driver.connections.next] rfl rfl
  | misdial => exact emits_misdial K.world
  | dial => exact World.emits_events [.connected K.world.driver.connections.next] rfl rfl
  | cut hl => exact emits_closeLine K.world _
  | handOut hh hl => exact emits_handOut hl
  | found => exact emits_found K.world _
  | _ => exact World.emits_none rfl rfl

theorem Moves.emits (h : Moves K l K') : World.Emits l K.world K'.world := by
  induction h with
  | refl => exact .refl _
  | tail _ hm ih => exact ih.trans hm.emits

end Custody

end ConnectionPool
