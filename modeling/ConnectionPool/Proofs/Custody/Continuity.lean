import ConnectionPool.Proofs.Custody.Placement

/-!
# What stays for good

Whatever moves are made, pools keep their configuration and their listeners, and connections keep
their pool, their line and their chain (`Custody.Continues`). A connection that is closed does not
change any more. A connection that is new has a line that is new, and its chain was made from the
configuration of its pool, one interceptor for each definition, in this order.
-/

set_option autoImplicit false

namespace ConnectionPool

/-- **Interceptors that were made from a configuration**: one for each definition, in order. -/
def PoolConfig.Fits (config : PoolConfig) (interceptors : List Interceptor) : Prop :=
  interceptors.map Interceptor.name = config.interceptors.map Definition.instanceName

section Charter

variable {pool pool' : Pool}

theorem Pool.config_of_charter (h : pool'.charter = pool.charter) : pool'.config = pool.config :=
  congrArg Prod.fst h

theorem Pool.listeners_of_charter (h : pool'.charter = pool.charter) :
    pool'.listeners = pool.listeners :=
  congrArg Prod.snd h

end Charter

namespace Custody

/-- **What one custody leaves to a later one.** -/
structure Continues (K K' : Custody) : Prop where
  lines : ∀ line, K.world.driver.connections.Known line → K'.world.driver.connections.Known line
  pools : ∀ p, K.world.pools.Known p →
    K'.world.pools.Known p ∧ (K'.world.pool p).charter = (K.world.pool p).charter
  newPools : ∀ p, K'.world.pools.Known p → ¬ K.world.pools.Known p →
    (K'.world.pool p).config.Fits (K'.world.pool p).listeners
  connections : ∀ c, K.world.connections.Known c → K'.world.connections.Known c
    ∧ (K'.world.connection c).pool = (K.world.connection c).pool
    ∧ (K'.world.connection c).physical = (K.world.connection c).physical
    ∧ (K'.world.connection c).chain = (K.world.connection c).chain
    ∧ (K.world.connection c).metadata.checkouts ≤ (K'.world.connection c).metadata.checkouts
  newConnections : ∀ c, K'.world.connections.Known c → ¬ K.world.connections.Known c →
    ¬ K.world.driver.connections.Known (K'.world.connection c).physical
    ∧ K'.world.pools.Known (K'.world.connection c).pool
    ∧ (K'.world.pool (K'.world.connection c).pool).config.Fits (K'.world.connection c).chain
  closed : ∀ c, (K.world.connection c).closed = true → K.world.connections.Known c →
    (K'.world.connection c).exterior = (K.world.connection c).exterior

variable {K K' K'' : Custody} {l : List Signal} {w : World}

theorem Continues.refl (K : Custody) : Continues K K where
  lines _ h := h
  pools _ h := ⟨h, rfl⟩
  newPools _ h hn := absurd h hn
  connections _ h := ⟨h, rfl, rfl, rfl, Nat.le_refl _⟩
  newConnections _ h hn := absurd h hn
  closed _ _ _ := rfl

theorem Continues.trans (h : Continues K K') (h' : Continues K' K'') : Continues K K'' := by
  refine
    { lines := fun line hk => h'.lines line (h.lines line hk)
      pools := fun p hp => ?_
      newPools := fun p hp hn => ?_
      connections := fun c hc => ?_
      newConnections := fun c hc hn => ?_
      closed := fun c hcl hc => ?_ }
  · obtain ⟨hk, hcharter⟩ := h.pools p hp
    obtain ⟨hk', hcharter'⟩ := h'.pools p hk
    exact ⟨hk', hcharter'.trans hcharter⟩
  · by_cases hk : K'.world.pools.Known p
    · have hcharter := (h'.pools p hk).2
      have hfits := h.newPools p hk hn
      rw [Pool.config_of_charter hcharter, Pool.listeners_of_charter hcharter]
      exact hfits
    · exact h'.newPools p hp hk
  · obtain ⟨hk, hpool, hphysical, hchain, hcheckouts⟩ := h.connections c hc
    obtain ⟨hk', hpool', hphysical', hchain', hcheckouts'⟩ := h'.connections c hk
    exact ⟨hk', hpool'.trans hpool, hphysical'.trans hphysical, hchain'.trans hchain,
      hcheckouts.trans hcheckouts'⟩
  · by_cases hk : K'.world.connections.Known c
    · obtain ⟨hline, hp, hfits⟩ := h.newConnections c hk hn
      obtain ⟨-, hpool, hphysical, hchain, -⟩ := h'.connections c hk
      obtain ⟨hp', hcharter⟩ := h'.pools _ hp
      rw [hphysical, hpool, hchain, Pool.config_of_charter hcharter]
      exact ⟨hline, hp', hfits⟩
    · obtain ⟨hline, hp, hfits⟩ := h'.newConnections c hc hk
      exact ⟨fun hold => hline (h.lines _ hold), hp, hfits⟩
  · have hsame := h.closed c hcl hc
    have hclosed : (K'.world.connection c).closed = true :=
      (congrArg Connection.closed hsame).trans hcl
    exact (h'.closed c hclosed (h.connections c hc).1).trans hsame

/-! ## Moves that bring nothing new -/

/-- What is to stay of a connection can be read off its exterior. -/
theorem kept_of_exterior {connection connection' : Connection}
    (h : connection'.exterior = connection.exterior) :
    connection'.pool = connection.pool ∧ connection'.physical = connection.physical
      ∧ connection'.chain = connection.chain
      ∧ connection.metadata.checkouts ≤ connection'.metadata.checkouts :=
  ⟨read_congr h Connection.pool fun _ => rfl, read_congr h Connection.physical fun _ => rfl,
    read_congr h Connection.chain fun _ => rfl,
    (read_congr h (fun connection => connection.metadata.checkouts) fun _ => rfl).ge⟩

/-- The connections and pools that there are may change, but no new ones are made. -/
theorem continues_of_sizes {hands : Multiset ConnectionId} {lines : PhysicalConnectionId → Prop}
    {due : Option PoolId} (hsize : w.connections.size = K.world.connections.size)
    (hpools : w.pools.size = K.world.pools.size)
    (hlines : K.world.driver.connections.size ≤ w.driver.connections.size)
    (hcharter : ∀ p, (w.pool p).charter = (K.world.pool p).charter)
    (hconnection : ∀ c, K.world.connections.Known c →
      (w.connection c).pool = (K.world.connection c).pool
      ∧ (w.connection c).physical = (K.world.connection c).physical
      ∧ (w.connection c).chain = (K.world.connection c).chain
      ∧ (K.world.connection c).metadata.checkouts ≤ (w.connection c).metadata.checkouts)
    (hclosed : ∀ c, (K.world.connection c).closed = true → K.world.connections.Known c →
      (w.connection c).exterior = (K.world.connection c).exterior) :
    Continues K ⟨w, hands, lines, due⟩ := by
  have hknown : ∀ c, w.connections.Known c ↔ K.world.connections.Known c :=
    Registry.known_congr hsize
  have hknownPool : ∀ p, w.pools.Known p ↔ K.world.pools.Known p := Registry.known_congr hpools
  exact
    { lines := fun line hk => ⟨hk.1, hk.2.trans hlines⟩
      pools := fun p hp => ⟨(hknownPool p).mpr hp, hcharter p⟩
      newPools := fun p hp hn => absurd ((hknownPool p).mp hp) hn
      connections := fun c hc => ⟨(hknown c).mpr hc, hconnection c hc⟩
      newConnections := fun c hc hn => absurd ((hknown c).mp hc) hn
      closed := hclosed }

/-- What interceptors keep may change. -/
theorem continues_of_exterior {hands : Multiset ConnectionId}
    {lines : PhysicalConnectionId → Prop} {due : Option PoolId}
    (hsize : w.connections.size = K.world.connections.size)
    (hpools : w.pools.size = K.world.pools.size)
    (hlines : K.world.driver.connections.size ≤ w.driver.connections.size)
    (hcharter : ∀ p, (w.pool p).charter = (K.world.pool p).charter)
    (hc : ∀ c, (w.connection c).exterior = (K.world.connection c).exterior) :
    Continues K ⟨w, hands, lines, due⟩ := by
  exact continues_of_sizes hsize hpools hlines hcharter
    (fun c _ => kept_of_exterior (hc c)) fun c _ _ => hc c

/-- One connection that is open may change. -/
theorem continues_of_alters {hands : Multiset ConnectionId} {lines : PhysicalConnectionId → Prop}
    {due : Option PoolId} {c : ConnectionId} {outside : Connection}
    (h : World.Alters c outside K.world w) (hl : K.world.Live c)
    (hlines : w.driver.connections.size = K.world.driver.connections.size)
    (hpool : outside.pool = (K.world.connection c).pool)
    (hphysical : outside.physical = (K.world.connection c).physical)
    (hchain : outside.chain = (K.world.connection c).chain)
    (hcheckouts : (K.world.connection c).metadata.checkouts ≤ outside.metadata.checkouts) :
    Continues K ⟨w, hands, lines, due⟩ := by
  refine continues_of_sizes h.connections_size h.pools_size hlines.ge (fun p => ?_)
    (fun d _ => ?_) fun d hd _ => ?_
  · exact read_congr (h.pool p) Pool.charter fun _ => rfl
  · by_cases hd : d = c
    · subst hd
      refine ⟨(h.read Connection.pool fun _ => rfl).trans hpool,
        (h.read Connection.physical fun _ => rfl).trans hphysical,
        (h.read Connection.chain fun _ => rfl).trans hchain, ?_⟩
      rw [h.read (fun connection => connection.metadata.checkouts) fun _ => rfl]
      exact hcheckouts
    · exact kept_of_exterior (h.other d hd)
  · refine h.other d ?_
    rintro rfl
    rw [hl.unclosed] at hd
    exact nomatch hd

/-! ## One move -/

/-- A connection that is opened is made from the configuration of its pool. -/
theorem continues_enlist {p : PoolId} (hp : K.world.pools.Known p) (number : Nat)
    {chain : List Interceptor} (hn : (K.world.pool p).config.Fits chain)
    (hands : Multiset ConnectionId) :
    Continues K { K with world := K.world.enlist p number chain, hands } := by
  have hadds := K.world.adds_enlist p number chain
  obtain ⟨w, hw⟩ : ∃ w, w = K.world.enlist p number chain := ⟨_, rfl⟩
  have hpools : w.pools = K.world.pools := by rw [hw]; rfl
  have hchain : (w.connection K.world.connections.next).chain = chain := by
    rw [hw, World.connection_enlist]
  rw [← hw] at hadds ⊢
  have hread : ∀ {β : Type} (read : Connection → β) (c : ConnectionId),
      K.world.connections.Known c → read (w.connection c) = read (K.world.connection c) :=
    fun read c hc => congrArg read (hadds.old c hc)
  refine
    { lines := fun line hk => (hadds.lines line hk).1
      pools := fun q hq => ⟨by rw [hpools]; exact hq, by rw [World.pool, hpools]; rfl⟩
      newPools := fun q hq hno => absurd (hpools ▸ hq) hno
      connections := fun c hc => ⟨(hadds.known c).mpr (Or.inl hc), hread Connection.pool c hc,
        hread Connection.physical c hc, hread Connection.chain c hc,
        (hread (fun connection => connection.metadata.checkouts) c hc).ge⟩
      newConnections := fun c hc hno => ?_
      closed := fun c _ hc => hread Connection.exterior c hc }
  -- the new connection is `c`; its line was not known, and its chain is from the configuration
  obtain rfl := ((hadds.known c).mp hc).resolve_left hno
  show ¬ K.world.driver.connections.Known (w.connection _).physical
    ∧ w.pools.Known (w.connection _).pool
    ∧ (w.pools.get (w.connection _).pool).config.Fits (w.connection _).chain
  rw [hadds.waiting.pool, hpools, hchain]
  exact ⟨hadds.line, hp, hn⟩

/-- A pool that starts has listeners that were made from its configuration. -/
theorem continues_found {pool : Pool} (hn : pool.config.Fits pool.listeners) :
    Continues K { K with world := { K.world with pools := K.world.pools.register pool } } where
  lines _ h := h
  pools p hp := ⟨(Registry.known_register _ _ _).mpr (Or.inl hp),
    congrArg Pool.charter (Registry.get_register_of_known pool hp)⟩
  newPools p hp hno := by
    obtain rfl := ((Registry.known_register _ _ _).mp hp).resolve_left hno
    show ((K.world.pools.register pool).get _).config.Fits
      ((K.world.pools.register pool).get _).listeners
    rw [Registry.get_register_next]
    exact hn
  connections c hc := ⟨hc, rfl, rfl, rfl, Nat.le_refl _⟩
  newConnections c hc hno := absurd hc hno
  closed _ _ _ := rfl

/-- What listeners are told of changes nothing. -/
theorem continues_unseen {hands : Multiset ConnectionId} {lines : PhysicalConnectionId → Prop}
    {due : Option PoolId} (h : K.world.Unseen w) : Continues K ⟨w, hands, lines, due⟩ :=
  continues_of_exterior h.connections_size h.pools_size (by rw [h.lines])
    (h.readPool Pool.charter fun _ => rfl) h.connection

/-- **A move leaves what is to stay.** -/
theorem Move.continues (h : Move K l K') : Continues K K' := by
  cases h with
  | still h =>
      exact continues_of_exterior h.connections_size h.pools_size (by rw [h.lines])
        (h.readPool Pool.charter fun _ => rfl) h.connection
  | @write p f hc =>
      exact continues_of_exterior rfl (Registry.size_modify _ _ _) (Nat.le_refl _)
        (K.world.pool_updatePool_congr p f Pool.charter hc) fun _ => rfl
  | @strike p f _ hc =>
      exact continues_of_exterior rfl (Registry.size_modify _ _ _) (Nat.le_refl _)
        (K.world.pool_updatePool_congr p f Pool.charter hc) fun _ => rfl
  | @shut p f _ _ hc =>
      exact continues_of_exterior rfl (Registry.size_modify _ _ _) (Nat.le_refl _)
        (K.world.pool_updatePool_congr p f Pool.charter hc) fun _ => rfl
  | @dismiss p hd => exact continues_unseen (K.world.unseen_tellListeners p .poolClosed)
  | tearDown finalizing hh hl =>
      have htorn := World.tornDown_teardown hl finalizing
      refine continues_of_alters htorn.alters hl ?_ rfl rfl rfl (Nat.le_refl _)
      rw [htorn.lines]
      exact Driver.size_connections_closeConnection _ _
  | enlist hp number hn => exact continues_enlist hp number hn _
  | misdial =>
      refine continues_of_exterior rfl rfl ?_ (fun _ => rfl) fun _ => rfl
      exact ((Driver.size_connections_closeConnection _ _).trans
        (Registry.size_register _ _)).ge.trans' (Nat.le_succ _)
  | dial =>
      exact continues_of_exterior rfl rfl ((Registry.size_register _ _).ge.trans' (Nat.le_succ _))
        (fun _ => rfl) fun _ => rfl
  | cut =>
      exact continues_of_exterior rfl rfl (Driver.size_connections_closeConnection _ _).ge
        (fun _ => rfl) fun _ => rfl
  | @handOut c hh hl =>
      have halters := ((World.Alters.refl K.world c).update hl.known
        (fun connection => { connection with
          metadata := connection.metadata.checkOut K.world.now }) fun _ => rfl).unseen
        (World.unseen_tellChain _ c (.attached c))
      refine continues_of_alters halters hl ?_ rfl rfl rfl (Nat.le_succ _)
      rw [(World.unseen_tellChain _ c (.attached c)).lines]
      rfl
  | @putBack c hands f hh hl ho hc =>
      have halters := (World.Alters.refl K.world c).update hl.known
        (fun connection => { connection with
          metadata := connection.metadata.checkIn K.world.now }) fun _ => rfl
      have hwritten : Continues K { K with world := (K.world.updateMetadata c fun metadata =>
          metadata.checkIn K.world.now) } :=
        continues_of_alters halters hl rfl rfl rfl rfl (Nat.le_refl _)
      refine hwritten.trans (continues_of_exterior rfl (Registry.size_modify _ _ _)
        (Nat.le_refl _) (World.pool_updatePool_congr _ _ f Pool.charter hc) fun _ => rfl)
  | found ho hi hn =>
      exact (continues_found hn).trans (continues_unseen (World.unseen_tellListeners _ _ _))

/-- **Any number of moves leave what is to stay.** -/
theorem Moves.continues (h : Moves K l K') : Continues K K' := by
  induction h with
  | refl => exact .refl K
  | tail _ hm ih => exact ih.trans hm.continues

end Custody

end ConnectionPool
