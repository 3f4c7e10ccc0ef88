import ConnectionPool.Proofs.Pool.Balance

/-!
# Rounds of hooks

A hook that a list of interceptors is told is a round of signals: each of them receives it, in
order, and sees the connection as it was before the first was told (`emits_tell`). A connection
that is torn down says farewell with two rounds, and the driver closes its line between them
(`tornDown_teardown`).
-/

set_option autoImplicit false

namespace ConnectionPool

namespace Connection

/-- The connection in another state. -/
def enter (connection : Connection) (state : ConnectionState) : Connection :=
  { connection with metadata := connection.metadata.enter state }

/-- The connection with its line closed. -/
def hungUp (connection : Connection) : Connection := { connection with closed := true }

/-- **A round through the chain**: a hook as each link receives it, in the order of the chain. -/
def round (connection : Connection) (c : ConnectionId) (hook : Hook) (seen : ConnectionSight) :
    List Signal :=
  connection.chain.zipIdx.map fun entry => .hook (.link c entry.2) entry.1 hook (some seen)

/-- The round of a checkout, by how many checkouts there were with this one. -/
def welcome (connection : Connection) (c : ConnectionId) (checkouts : Nat) : List Signal :=
  connection.round c (.attached c) ⟨connection.metadata.number, checkouts, .inUse, false⟩

/-- **What is signalled when the connection is torn down**: its chain hears that the connection is
about to be closed while the line is still open; then the line is closed; then the chain hears
that it was. -/
def farewell (connection : Connection) (c : ConnectionId) (finalizing : Bool) : List Signal :=
  let metadata := connection.metadata
  connection.round c (.disconnected c finalizing)
      ⟨metadata.number, metadata.checkouts, .closing, false⟩
    ++ .hungUp connection.physical
      :: connection.round c (.detached c) ⟨metadata.number, metadata.checkouts, .closing, true⟩

end Connection

/-- **A round through the listeners** of a pool. -/
def Pool.round (pool : Pool) (p : PoolId) (hook : Hook) : List Signal :=
  pool.listeners.zipIdx.map fun entry => .hook (.listener p entry.2) entry.1 hook none

namespace World

/-- **What is signalled when a pool closes**: all idle connections say farewell, the one returned
first before the others, and then the listeners are told. -/
def closing (w : World) (p : PoolId) : List Signal :=
  (w.pool p).idle.reverse.flatMap (fun c => (w.connection c).farewell c true)
    ++ (w.pool p).round p .poolClosed

variable {w w' : World} {c : ConnectionId} {p : PoolId}

/-! ## Telling -/

/-- **A list of interceptors is told something.** The induction is on those that are still to be
told; the others have done nothing that can be seen. -/
theorem emits_tell (w : World) (p : PoolId) (hook : Hook) (receiver : Nat → Receiver)
    (interceptors : List Interceptor) :
    Emits (interceptors.zipIdx.map fun entry => .hook (receiver entry.2) entry.1 hook
        (hook.connection?.map fun c => (w.connection c).sight))
      w (tell p hook receiver interceptors w) := by
  have hfold : ∀ (l : List (Interceptor × Nat)) (v : World), w.Unseen v →
      Emits (l.map fun entry => .hook (receiver entry.2) entry.1 hook
          (hook.connection?.map fun c => (w.connection c).sight))
        v (l.foldl (fun w entry => deliver p hook (receiver entry.2) entry.1 w) v) := by
    intro l
    induction l with
    | nil => exact fun v _ => .refl v
    | cons entry rest ih =>
        intro v hv
        have hnote := emits_note v (receiver entry.2) entry.1
          (.hook hook (v.sight p hook.connection?))
        have hseen : (v.sight p hook.connection?).connection
            = hook.connection?.map fun c => (w.connection c).sight := by
          show hook.connection?.map (fun c => (v.connection c).sight) = _
          congr 1
          funext c
          exact hv.read Connection.sight (fun _ => rfl) c
        have hdeeds := deeds_react (v.note (receiver entry.2) entry.1
          (.hook hook (v.sight p hook.connection?))) p entry.1 hook
        have htold := (hnote.trans hdeeds.emits).trans
          (ih _ (hv.trans ((v.unseen_note _ _ _).trans hdeeds.unseen)))
        simp only [Notice.signal?, Option.toList_some, List.append_nil, hseen] at htold
        exact htold
  exact hfold _ w (.refl w)

theorem emits_tellChain (w : World) {c : ConnectionId} (hook : Hook)
    (h : hook.connection? = some c) :
    Emits ((w.connection c).round c hook (w.connection c).sight) w (w.tellChain c hook) := by
  have htell := w.emits_tell (w.connection c).pool hook (Receiver.link c) (w.connection c).chain
  rw [h] at htell
  exact htell

theorem emits_tellListeners (w : World) (p : PoolId) (hook : Hook)
    (h : hook.connection? = none) :
    Emits ((w.pool p).round p hook) w (w.tellListeners p hook) := by
  have htell := w.emits_tell p hook (Receiver.listener p) (w.pool p).listeners
  rw [h] at htell
  exact htell

/-! ## One connection changes -/

/-- **One connection changes** and then looks like `outside` from outside its chain; the others
and the pools stay as they are, apart from what interceptors keep. -/
structure Alters (c : ConnectionId) (outside : Connection) (w w' : World) : Prop where
  connections_size : w'.connections.size = w.connections.size
  pools_size : w'.pools.size = w.pools.size
  pool : ∀ p, (w'.pool p).exterior = (w.pool p).exterior
  self : (w'.connection c).exterior = outside.exterior
  other : ∀ d, d ≠ c → (w'.connection d).exterior = (w.connection d).exterior

section Alters

variable {outside : Connection}

theorem Alters.refl (w : World) (c : ConnectionId) : Alters c (w.connection c) w w where
  connections_size := rfl
  pools_size := rfl
  pool _ := rfl
  self := rfl
  other _ _ := rfl

theorem Alters.known (h : Alters c outside w w') (d : ConnectionId) :
    w'.connections.Known d ↔ w.connections.Known d :=
  Registry.known_congr h.connections_size d

theorem Alters.read {β : Type} (h : Alters c outside w w') (read : Connection → β)
    (hr : ∀ connection : Connection, read connection.exterior = read connection) :
    read (w'.connection c) = read outside :=
  read_congr h.self read hr

theorem Alters.unseen {w'' : World} (h : Alters c outside w w') (hu : w'.Unseen w'') :
    Alters c outside w w'' where
  connections_size := hu.connections_size.trans h.connections_size
  pools_size := hu.pools_size.trans h.pools_size
  pool p := (hu.pool p).trans (h.pool p)
  self := (hu.connection c).trans h.self
  other d hd := (hu.connection d).trans (h.other d hd)

theorem Alters.driver (h : Alters c outside w w') (driver : Driver) :
    Alters c outside w { w' with driver } :=
  ⟨h.connections_size, h.pools_size, h.pool, h.self, h.other⟩

/-- The connection changes once more. -/
theorem Alters.update (h : Alters c outside w w') (hc : w.connections.Known c)
    (f : Connection → Connection)
    (hf : ∀ connection, (f connection).exterior = (f connection.exterior).exterior) :
    Alters c (f outside) w (w'.updateConnection c f) where
  connections_size := (Registry.size_modify _ _ _).trans h.connections_size
  pools_size := h.pools_size
  pool := h.pool
  self := by
    rw [connection_updateConnection, if_pos ⟨rfl, (h.known c).mpr hc⟩, hf, h.self, ← hf]
  other d hd := by
    rw [connection_updateConnection, if_neg fun he => hd he.1.symm]
    exact h.other d hd

end Alters

/-! ## Tearing down -/

theorem emits_hangUp (h : w.Live c) :
    Emits [.hungUp (w.connection c).physical] w (w.hangUp c) := by
  refine emits_events [.connectionClosed (w.connection c).physical] (log_hangUp h) ?_
  rw [hangUp_of_live h]
  rfl

/-- **A connection has been torn down**: it and its line are closed, and its chain has said
farewell. -/
structure TornDown (finalizing : Bool) (c : ConnectionId) (w w' : World) : Prop where
  alters : Alters c ((w.connection c).hungUp.enter .closed) w w'
  lines : w'.driver.connections
    = (w.driver.closeConnection (w.connection c).physical).connections
  emits : Emits ((w.connection c).farewell c finalizing) w w'

/-- **Tearing an open connection down.** -/
theorem tornDown_teardown (h : w.Live c) (finalizing : Bool) :
    TornDown finalizing c w (teardown finalizing w c) := by
  -- the connection is marked as closing, and the chain is told
  obtain ⟨w₁, hw₁⟩ : ∃ v, v = w.updateConnection c fun connection => connection.enter .closing :=
    ⟨_, rfl⟩
  obtain ⟨w₂, hw₂⟩ : ∃ v, v = w₁.tellChain c (.disconnected c finalizing) := ⟨_, rfl⟩
  have hclosing : Alters c ((w.connection c).enter .closing) w w₁ := by
    rw [hw₁]
    exact (Alters.refl w c).update h.known (·.enter .closing) fun _ => rfl
  have hunseen : w₁.Unseen w₂ := hw₂ ▸ w₁.unseen_tellChain c _
  have htold := hclosing.unseen hunseen
  have hdriver : w₁.driver = w.driver := by rw [hw₁]; rfl
  have hmarked : Emits [] w w₁ := emits_none (by rw [hdriver]) (by rw [hw₁]; rfl)
  have hdisconnected := w₁.emits_tellChain (.disconnected c finalizing) (c := c) rfl
  rw [hclosing.read (fun connection => connection.round c (.disconnected c finalizing)
    connection.sight) fun _ => rfl, ← hw₂] at hdisconnected
  -- the line is closed
  have hphysical : (w₂.connection c).physical = (w.connection c).physical :=
    htold.read Connection.physical fun _ => rfl
  have hlines : w₂.driver.connections = w.driver.connections := by rw [hunseen.lines, hdriver]
  have hlive : w₂.Live c := by
    refine ⟨(htold.known c).mpr h.known, ?_, ?_⟩
    · exact (htold.read Connection.closed fun _ => rfl).trans h.unclosed
    · rw [hphysical, Driver.connection, hlines]
      exact h.line
  obtain ⟨w₃, hw₃⟩ : ∃ v, v = w₂.hangUp c := ⟨_, rfl⟩
  have hhung : Alters c ((w.connection c).enter .closing).hungUp w w₃ := by
    rw [hw₃, hangUp_of_live hlive]
    exact (htold.update h.known Connection.hungUp fun _ => rfl).driver _
  have hhangUp := emits_hangUp hlive
  rw [hphysical, ← hw₃] at hhangUp
  -- the chain is told once more, and the connection is marked as closed
  obtain ⟨w₄, hw₄⟩ : ∃ v, v = w₃.tellChain c (.detached c) := ⟨_, rfl⟩
  have hunseen' : w₃.Unseen w₄ := hw₄ ▸ w₃.unseen_tellChain c _
  have hdetached := w₃.emits_tellChain (.detached c) (c := c) rfl
  rw [hhung.read (fun connection => connection.round c (.detached c) connection.sight)
    fun _ => rfl, ← hw₄] at hdetached
  have hteardown : teardown finalizing w c
      = w₄.updateConnection c fun connection => connection.enter .closed := by
    rw [hw₄, hw₃, hw₂, hw₁]
    rfl
  rw [hteardown]
  refine ⟨(hhung.unseen hunseen').update h.known (·.enter .closed) fun _ => rfl, ?_, ?_⟩
  · show w₄.driver.connections = _
    rw [hunseen'.lines, hw₃, hangUp_of_live hlive, hphysical]
    exact connections_closeConnection_congr hlines _
  · have hlast : Emits [] w₄ (w₄.updateConnection c fun connection => connection.enter .closed) :=
      emits_none rfl rfl
    have hall := hmarked.trans (hdisconnected.trans (hhangUp.trans (hdetached.trans hlast)))
    have hseen : ((w.connection c).enter .closing).sight
        = ⟨(w.connection c).metadata.number, (w.connection c).metadata.checkouts, .closing,
          false⟩ := by
      rw [← h.unclosed]
      rfl
    rw [List.append_nil, List.nil_append, hseen] at hall
    exact hall

end World

end ConnectionPool
