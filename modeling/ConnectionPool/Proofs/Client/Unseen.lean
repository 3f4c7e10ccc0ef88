import ConnectionPool.Proofs.Client.Deeds

/-!
# What nobody outside the chains can see

Interceptors note what they see, keep stores and counters, and use the driver's statements. What
a pool does with its connections depends on none of this. `World.Unseen` says that a change of
the world is of this kind; whatever interceptors do is (`Deeds.unseen`), and so are the hooks of a
pool (`unseen_tell`).
-/

set_option autoImplicit false

namespace ConnectionPool

/-- The connection apart from what interceptors keep on it. -/
def Connection.exterior (connection : Connection) : Connection :=
  { connection with attributes := Attributes.empty }

/-- The pool apart from what interceptors keep on it. -/
def Pool.exterior (pool : Pool) : Pool := { pool with attributes := Attributes.empty }

/-- What can be read off a part is the same for all that agree on the part. -/
theorem read_congr {α β : Type} {part : α → α} {a b : α} (h : part a = part b) (read : α → β)
    (hr : ∀ a, read (part a) = read a) : read a = read b := by
  rw [← hr, h, hr]

namespace World

/-- **A change that nobody outside the chains can see**: of attributes, bindings and counters, of
the journal, and of the driver's statements. -/
structure Unseen (w w' : World) : Prop where
  now : w'.now = w.now
  lines : w'.driver.connections = w.driver.connections
  faults : w'.driver.faults = w.driver.faults
  shares : w'.shares = w.shares
  connections_size : w'.connections.size = w.connections.size
  pools_size : w'.pools.size = w.pools.size
  connection : ∀ c, (w'.connection c).exterior = (w.connection c).exterior
  pool : ∀ p, (w'.pool p).exterior = (w.pool p).exterior
  fallible : ∀ k, (w'.cache k).fallible = (w.cache k).fallible
  acts : w.driver.Acts w'.driver

variable {w w' : World}

theorem Unseen.refl (w : World) : w.Unseen w where
  now := rfl
  lines := rfl
  faults := rfl
  shares := rfl
  connections_size := rfl
  pools_size := rfl
  connection _ := rfl
  pool _ := rfl
  fallible _ := rfl
  acts := .refl _

theorem Unseen.trans {w₁ w₂ w₃ : World} (h : w₁.Unseen w₂) (h' : w₂.Unseen w₃) : w₁.Unseen w₃ where
  now := h'.now.trans h.now
  lines := h'.lines.trans h.lines
  faults := h'.faults.trans h.faults
  shares := h'.shares.trans h.shares
  connections_size := h'.connections_size.trans h.connections_size
  pools_size := h'.pools_size.trans h.pools_size
  connection c := (h'.connection c).trans (h.connection c)
  pool p := (h'.pool p).trans (h.pool p)
  fallible k := (h'.fallible k).trans (h.fallible k)
  acts := h.acts.trans h'.acts

/-- What can be read off a connection from outside its chain. -/
theorem Unseen.read {β : Type} (h : w.Unseen w') (read : Connection → β)
    (hr : ∀ connection : Connection, read connection.exterior = read connection)
    (c : ConnectionId) : read (w'.connection c) = read (w.connection c) :=
  read_congr (h.connection c) read hr

/-! ## Deeds -/

theorem Deed.unseen (h : Deed w w') : w.Unseen w' := by
  cases h with
  | note receiver interceptor _ => exact { Unseen.refl w with pool := fun _ => rfl }
  | store c store =>
      exact { Unseen.refl w with
        connections_size := Registry.size_modify _ _ _
        connection := w.connection_updateConnection_congr c _ Connection.exterior fun _ => rfl }
  | count n change => exact { Unseen.refl w with pool := fun _ => rfl }
  | counter => exact { Unseen.refl w with pool := fun _ => rfl }
  | charge p change =>
      exact { Unseen.refl w with
        pools_size := Registry.size_modify _ _ _
        pool := w.pool_updatePool_congr p _ Pool.exterior fun _ => rfl }
  | bind k binding =>
      exact { Unseen.refl w with
        fallible := w.cache_updateCache_congr k _ StatementCache.fallible fun _ => rfl }
  | serve hserves hacts =>
      exact { Unseen.refl w with
        lines := hserves.connections, faults := hserves.faults, acts := hacts }
  | spend due => exact { Unseen.refl w with pool := fun _ => rfl }

/-- **No deed can be seen.** -/
theorem Deeds.unseen (h : Deeds w w') : w.Unseen w' := by
  induction h with
  | refl => exact .refl w
  | tail _ hdeed ih => exact ih.trans hdeed.unseen

/-! ## Holding connections -/

/-- Who holds a store can change by a deed only if caches are attached or detached. -/
theorem Deeds.isHeld (h : Deeds w w') (hcaches : w'.caches = w.caches) (c : ConnectionId) :
    w'.isHeld c = w.isHeld c := by
  rw [World.isHeld, World.isHeld, hcaches, h.unseen.shares,
    h.unseen.read Connection.isTornDown fun _ => rfl]

theorem unseen_forget (w : World) (c : ConnectionId) : w.Unseen (w.forget c) :=
  (w.deeds_forget c).unseen

theorem unseen_forgetAll (l : List ConnectionId) (w : World) : w.Unseen (l.foldl forget w) :=
  (w.deeds_forgetAll l).unseen

/-! ## Hooks -/

/-- A notice of a hook is not seen either. -/
theorem unseen_note (w : World) (receiver : Receiver) (interceptor : Interceptor)
    (content : NoticeContent) : w.Unseen (w.note receiver interceptor content) :=
  { Unseen.refl w with pool := fun _ => rfl }

/-- **What interceptors do when they are told something cannot be seen.** -/
theorem unseen_tell (w : World) (p : PoolId) (hook : Hook) (receiver : Nat → Receiver)
    (interceptors : List Interceptor) : w.Unseen (tell p hook receiver interceptors w) := by
  have hfold : ∀ (l : List (Interceptor × Nat)) (v : World), v.Unseen
      (l.foldl (fun w entry => deliver p hook (receiver entry.2) entry.1 w) v) := by
    intro l
    induction l with
    | nil => exact fun v => .refl v
    | cons entry rest ih =>
        intro v
        have hnote := v.unseen_note (receiver entry.2) entry.1
          (.hook hook (v.sight p hook.connection?))
        exact (hnote.trans (deeds_react _ p entry.1 hook).unseen).trans (ih _)
  exact hfold _ w

theorem unseen_tellChain (w : World) (c : ConnectionId) (hook : Hook) :
    w.Unseen (w.tellChain c hook) :=
  w.unseen_tell _ hook _ _

theorem unseen_tellListeners (w : World) (p : PoolId) (hook : Hook) :
    w.Unseen (w.tellListeners p hook) :=
  w.unseen_tell p hook _ _

end World

end ConnectionPool
