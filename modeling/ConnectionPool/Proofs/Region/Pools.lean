import ConnectionPool.Proofs.Pool.Unheld
import ConnectionPool.Proofs.Region.Chains

/-!
# What pools do within a region

Tearing connections down, returning them, sweeping, checking out, starting and closing pools: what
is about a pool of a region and its connections is confined to the region. Connections and caches
that are made on the way lie in the region if the region is roomy, that is if everything that there
is not yet lies in it.
-/

set_option autoImplicit false

namespace ConnectionPool

theorem Registry.size_le_of_known {α β : Type} {r : Registry α} {r' : Registry β}
    (h : ∀ n, r.Known n → r'.Known n) : r.size ≤ r'.size := by
  by_cases hr : r.size = 0
  · rw [hr]
    exact Nat.zero_le _
  · exact (h r.size ⟨hr, Nat.le_refl _⟩).2

namespace Region

variable {R : Region} {w w' : World} {P : Prop} {c : ConnectionId} {p : PoolId}

/-- **The region is roomy**: whatever there is not yet lies in it. -/
structure Roomy (R : Region) (w : World) : Prop where
  pools : ∀ p, ¬ w.pools.Known p → R.pools p
  connections : ∀ c, ¬ w.connections.Known c → R.connections c
  caches : ∀ k, ¬ w.caches.Known k → R.caches k
  counters : ∀ n, ¬ w.counters.Known n → R.counters n

theorem Roomy.grows (h : R.Roomy w) (hg : w.Grows w') : R.Roomy w' where
  pools p hp := h.pools p fun hk => hp (hk.mono hg.pools)
  connections c hc := h.connections c fun hk => hc (hk.mono hg.connections)
  caches k hk := h.caches k fun h => hk (h.mono hg.caches)
  counters n hn := h.counters n fun hk => hn (hk.mono hg.counters)

/-- These connections are known and lie in the region, with their pools. -/
def Lodges (R : Region) (w : World) (l : List ConnectionId) : Prop :=
  ∀ c ∈ l, R.connections c ∧ w.connections.Known c ∧ R.pools (w.connection c).pool

theorem Lodges.grows {l : List ConnectionId} (h : R.Lodges w l) (hg : w.Grows w') :
    R.Lodges w' l := by
  intro c hc
  obtain ⟨hr, hk, hp⟩ := h c hc
  exact ⟨hr, hk.mono hg.connections, by rw [Connection.pool_of_frame (hg.frame c hk)]; exact hp⟩

theorem Lodges.sublist {l l' : List ConnectionId} (h : R.Lodges w l) (hl : ∀ c ∈ l', c ∈ l) :
    R.Lodges w l' :=
  fun c hc => h c (hl c hc)

/-! ## Ending the life of a connection -/

theorem confined_hangUp (w : World) (c : ConnectionId) :
    R.Confined (R.connections c) w (w.hangUp c) True := by
  unfold World.hangUp
  split
  · exact .refl R _ w
  · have hclosed := confined_updateConnection (R := R) (P := R.connections c) w c
      (fun connection => { connection with closed := true }) (fun _ => rfl) (fun _ => rfl)
      fun h _ => h
    exact hclosed.trans (confined_line _ (Driver.touches_closeConnection _ _))

/-- **A connection of the region is torn down.** -/
theorem confined_teardown (finalizing : Bool) (w : World) (c : ConnectionId) :
    R.Confined (R.connections c) w (World.teardown finalizing w c) True := by
  have hclosing := confined_updateMetadata (R := R) (P := R.connections c) w c
    (fun metadata => metadata.enter .closing) fun h _ => h
  have htold := hclosing.trans ((confined_tellChain _
    (show (Hook.disconnected c finalizing).connection? = some c from rfl)
    (by rintro ⟨⟩)).given fun h _ => h.1)
  have hhung := htold.trans ((confined_hangUp _ c).given fun h _ => h.1)
  have hdetached := hhung.trans ((confined_tellChain _
    (show (Hook.detached c).connection? = some c from rfl)
    fun _ hc => World.isTornDown_disconnecting hc).given fun h _ => h.1)
  exact hdetached.trans (confined_updateMetadata _ c (fun metadata => metadata.enter .closed)
    fun h _ => h.1)

theorem confined_teardownAll (finalizing : Bool) (l : List ConnectionId) :
    ∀ w : World, R.Confined (∀ c ∈ l, R.connections c) w (l.foldl (World.teardown finalizing) w)
      True := by
  induction l with
  | nil => exact fun w => .refl R _ w
  | cons c rest ih =>
      intro w
      exact ((confined_teardown finalizing w c).given fun h _ => h c List.mem_cons_self).trans
        ((ih _).given fun h _ d hd => h.1 d (List.mem_cons_of_mem _ hd))

/-- **Connections of the region are forgotten**, and what is kept there is held. -/
theorem confined_forgetAll (l : List ConnectionId) :
    ∀ w : World, R.Confined
      (∀ c ∈ l, R.connections c ∧ R.Secures c (l.foldl World.forget w)) w
      (l.foldl World.forget w) True := by
  induction l with
  | nil => exact fun w => .refl R _ w
  | cons c rest ih =>
      intro w
      refine ((confined_forget w c).given fun h _ => ?_).trans
        ((ih _).given fun h _ d hd => h.1 d (List.mem_cons_of_mem _ hd))
      obtain ⟨hc, hs⟩ := h c List.mem_cons_self
      refine ⟨hc, fun key hkey => ?_⟩
      rw [← World.isHeld_forgetAll rest]
      exact hs key hkey

theorem confined_retire (w : World) (c : ConnectionId) :
    R.Confined (R.connections c ∧ R.pools (w.connection c).pool ∧ R.Secures c (w.retire c)) w
      (w.retire c) True :=
  ((confined_books w _ (fun pool => { pool with total := pool.total - 1, inUse := pool.inUse - 1 })
    (fun _ => rfl) fun h _ => h.2.1).trans ((confined_teardown false _ c).given
      fun h _ => h.1.1)).trans ((confined_forget _ c).given fun h _ => ⟨h.1.1, h.1.2.2⟩)

/-- **A connection of the region is returned.** -/
theorem confined_checkIn (w : World) (c : ConnectionId) :
    R.Confined (R.connections c ∧ R.pools (w.connection c).pool ∧ R.Secures c (w.checkIn c)) w
      (w.checkIn c) True := by
  unfold World.checkIn
  simp only
  split
  · exact confined_retire w c
  · exact (confined_updateMetadata w c _ fun h _ => h.1).trans
      (confined_books _ _ _ (fun _ => rfl) fun h _ => h.1.2.1)

/-! ## Making connections and pools -/

/-- **New caches are made.** -/
theorem confined_equip {w u : World} {definitions : List Definition} {chain : List Interceptor}
    (h : w.Equipped u definitions chain) :
    R.Confined (R.Roomy w) w { w with caches := u.caches }
      ((∀ k ∈ chain.filterMap Interceptor.cache?, R.caches k)
        ∧ ∀ c, R.connections c → ∀ k ∈ chain.filterMap Interceptor.cache?,
          k ∉ (w.connection c).caches) := by
  have hgrows : w.Grows { w with caches := u.caches } :=
    { World.Grows.refl w with
      caches := Registry.size_le_of_known fun k hk => (h.caches_known k hk).1
      policy := fun k hk => congrArg StatementCache.policy (h.caches_known k hk).2 }
  have hcache : ∀ {k}, w.caches.Known k →
      ({ w with caches := u.caches } : World).cache k = w.cache k :=
    fun hk => (h.caches_known _ hk).2
  refine ⟨hgrows, fun hroomy hw _ => ⟨{ hw with
      chain := fun c k hc hk =>
        ⟨(hw.chain c k hc hk).1, (h.caches_known k (hw.chain c k hc hk).2).1⟩
      bound := fun k binding hk hb => ?_
      tied := fun c k binding hc hk hb => ?_
      policy := fun c key k hkey hk => ?_ }, { Spares.refl R w with
      cache := fun k hk => ?_ }, fun k hk => ?_, fun c hc k hk hmem => ?_⟩⟩
  · by_cases hknown : w.caches.Known k
    · rw [hcache hknown] at hb
      exact (hw.bound k binding hk hb).grows hgrows
    · have hnone : (u.cache k).binding = none := h.caches_new k hknown
      rw [show ({ w with caches := u.caches } : World).cache k = u.cache k from rfl, hnone] at hb
      cases hb
  · rw [hcache (hw.chain c k hc hk).2] at hb
    exact hw.tied c k binding hc hk hb
  · rw [hcache (hw.chain c k (hw.kept c key hkey).1 hk).2]
    exact hw.policy c key k hkey hk
  · by_contra hne
    exact hk (hroomy.caches k fun hknown => hne (hcache hknown))
  · exact hroomy.caches k (h.chain_new k hk).2
  · exact (h.chain_new k hk).2 (hw.chain c k hc hmem).2

/-- A cache is made. -/
theorem confined_newCache (w : World) (policy : CachePolicy) (fallible : Bool) :
    R.Confined (R.Roomy w) w (w.newCache policy fallible).1 True :=
  (confined_equip (w.equipped_newCache policy fallible)).gives fun _ _ => trivial

/-- **A connection is added.** Its caches are known, attached to nothing, and in no other chain. -/
theorem Closed.enlist (hw : R.Closed w) {connection : Connection}
    (hstore : connection.attributes = Attributes.empty) (hnext : R.connections w.connections.next)
    (hpool : R.pools connection.pool)
    (hnew : ∀ k ∈ connection.caches, R.caches k ∧ w.caches.Known k ∧ (w.cache k).binding = none
      ∧ ∀ c, R.connections c → k ∉ (w.connection c).caches) :
    R.Closed { w with connections := w.connections.register connection }
      ∧ R.Spares w { w with connections := w.connections.register connection } := by
  have hcase := w.connection_register connection
  have hnone : connection.store? = none := by
    rw [Connection.store?, hstore]
    rfl
  have hsto := World.store_register (w := w) hnone
  -- nothing is parked on a connection that there is not yet, so nothing is kept there
  have hkeep : ∀ {c key}, R.kept c key → w.connections.Known c := fun {c key} hk => by
    by_contra hc
    have hthere := (hw.kept c key hk).2
    rw [w.store_of_not_known hc] at hthere
    cases hthere
  constructor
  · exact
      { hw with
        chain := by
          intro c k hc hk
          rcases hcase c with ⟨-, h⟩ | ⟨-, h⟩ <;> rw [h] at hk
          · exact ⟨(hnew k hk).1, (hnew k hk).2.1⟩
          · exact hw.chain c k hc hk
        home := by
          intro c k hc hk
          rcases hcase c with ⟨-, h⟩ | ⟨-, h⟩ <;> rw [h] at hk ⊢
          · exact hpool
          · exact hw.home c k hc hk
        apart := by
          intro c d k hc hd hkc hkd
          rcases hcase c with ⟨hcn, h⟩ | ⟨-, h⟩ <;> rcases hcase d with ⟨hdn, h'⟩ | ⟨-, h'⟩ <;>
            rw [h] at hkc <;> rw [h'] at hkd
          · exact hcn.trans hdn.symm
          · exact absurd hkd ((hnew k hkc).2.2.2 d hd)
          · exact absurd hkc ((hnew k hkd).2.2.2 c hc)
          · exact hw.apart c d k hc hd hkc hkd
        bound := by
          intro k binding hk hb
          have hbound := hw.bound k binding hk hb
          exact ⟨hbound.connection, hbound.known.mono (by simp), hbound.counter⟩
        tied := by
          intro c k binding hc hk hb
          rcases hcase c with ⟨-, h⟩ | ⟨-, h⟩ <;> rw [h] at hk
          · have hnone : (w.cache k).binding = some binding := hb
            rw [(hnew k hk).2.2.1] at hnone
            cases hnone
          · exact hw.tied c k binding hc hk hb
        parked := by
          intro c key tracked hc hkey hf
          rw [hsto] at hf
          exact hw.parked c key tracked hc hkey hf
        kept := by
          intro c key hk
          rw [hsto]
          exact hw.kept c key hk
        policy := by
          intro c key k hkey hk
          rw [World.connection_register_of_known connection (hkeep hkey)] at hk
          exact hw.policy c key k hkey hk }
  · exact
      { Spares.refl R w with
        connection := by
          intro c hc
          rcases hcase c with ⟨rfl, -⟩ | ⟨-, h⟩
          · exact absurd hnext hc
          · exact h
        kept := fun c key _ => by rw [hsto] }

/-- **A connection of a pool of the region is opened**, with a chain of new caches. -/
theorem confined_enlist {w u : World} {definitions : List Definition} (connection : Connection)
    (h : w.Equipped u definitions connection.chain)
    (hstore : connection.attributes = Attributes.empty) :
    R.Confined (R.pools connection.pool ∧ R.Roomy w) w
      { w with caches := u.caches, connections := w.connections.register connection }
      (R.connections w.connections.next) := by
  have hequip := confined_equip (R := R) h
  have hcase := World.connection_register { w with caches := u.caches } connection
  have hgrows : w.Grows
      { w with caches := u.caches, connections := w.connections.register connection } :=
    { hequip.grows with
      connections := by simp
      frame := fun c hc => congrArg Connection.frame (Registry.get_register_of_known connection hc)
      linked := by
        intro c k hk hm
        rcases hcase c with ⟨-, h'⟩ | ⟨-, h'⟩ <;> rw [h'] at hm
        · exact absurd hk (h.chain_new k hm).2
        · exact hm }
  refine ⟨hgrows, fun hp hw hq => ?_⟩
  obtain ⟨hv, hspares, hin, hfree⟩ := hequip.effect hp.2 hw hq
  have hnext := hp.2.connections _ w.connections.not_known_next
  obtain ⟨hv', hspares'⟩ := hv.enlist hstore hnext hp.1 fun k hk =>
    ⟨hin k hk, (h.chain_new k hk).1, h.caches_new k (h.chain_new k hk).2,
      fun c hc => hfree c hc k hk⟩
  exact ⟨hv', hspares.trans hspares', hnext⟩

/-- **A pool without a counter is added.** -/
theorem confined_found (w : World) (pool : Pool) (hn : pool.counter? = none) :
    R.Confined (R.pools w.pools.next) w { w with pools := w.pools.register pool } True := by
  have hgrows : w.Grows { w with pools := w.pools.register pool } :=
    { World.Grows.refl w with pools := by simp }
  have hread : ∀ p, ({ w with pools := w.pools.register pool } : World).pool p
      = if p = w.pools.next then pool else w.pool p := fun p => Registry.get_register _ _ p
  refine ⟨hgrows, fun h hw _ => ⟨{ hw with
      bound := fun k binding hk hb => (hw.bound k binding hk hb).grows hgrows
      counted := fun p n hp hc => ?_ }, { Spares.refl R w with pool := fun p hp => ?_ }, trivial⟩⟩
  · rw [hread] at hc
    split at hc
    · rw [hn] at hc
      cases hc
    · exact hw.counted p n hp hc
  · rw [hread, if_neg]
    rintro rfl
    exact hp h

/-! ## Checking out -/

theorem confined_openConnection (w : World) (p : PoolId) :
    R.Confined (R.pools p ∧ R.Roomy w) w (w.openConnection p).1
      (∀ c, (w.openConnection p).2 = .ok c → R.connections c) := by
  obtain ⟨due, error, -, h⟩ | ⟨sources, error, -, h⟩
    | ⟨u, chain, sources, number, -, hequipped, -, h⟩ :=
    w.openConnection_cases p <;> rw [h]
  · exact (confined_line w (w.driver.touches_faults _)).gives fun _ _ c hc => by cases hc
  · have hclosed : R.Confined (R.pools p ∧ R.Roomy w) w { w with
        driver := w.driver.openConnection.1.closeConnection w.driver.connections.next } True :=
      confined_line w (w.driver.touches_openConnection.trans (Driver.touches_closeConnection _ _))
    exact (hclosed.trans (confined_books _ p (fun pool => { pool with sources }) (fun _ => rfl)
      fun h _ => h.1.1)).gives fun _ _ c hc => by cases hc
  · have hopened : R.Confined (R.pools p ∧ R.Roomy w) w
        { w with driver := w.driver.openConnection.1 } True :=
      confined_line w w.driver.touches_openConnection
    have hlisted := hopened.trans ((confined_enlist (R := R)
      (w := { w with driver := w.driver.openConnection.1 })
      { pool := p
        physical := w.driver.connections.next
        metadata := .opened number w.now
        chain }
      ⟨hequipped.caches_known, hequipped.caches_new, hequipped.nodup, hequipped.chain_new,
        hequipped.policy, hequipped.caching⟩ rfl).given fun h _ =>
          ⟨h.1.1, h.1.2.grows hopened.grows⟩)
    exact ((hlisted.and (confined_books _ p (fun pool => { pool with sources }) (fun _ => rfl)
      fun h _ => h.1.1)).and (confined_books _ p (fun pool => { pool with opened := number })
        (fun _ => rfl) fun h _ => h.1.1)).gives fun _ hq c hc => by
          cases hc
          exact hq.1.1

theorem confined_extend (w : World) (p : PoolId) :
    R.Confined (R.pools p ∧ R.Roomy w) w (w.extend p).1
      (∀ c, (w.extend p).2 = .ok c → R.connections c) := by
  unfold World.extend
  simp only
  split
  · exact (Confined.refl R _ w).gives fun _ _ c hc => by cases hc
  · have htook := confined_books (R := R) (P := R.pools p ∧ R.Roomy w) w p (fun pool =>
      { pool with total := pool.total + 1, inUse := pool.inUse + 1 }) (fun _ => rfl) fun h _ => h.1
    have hopened := htook.trans ((confined_openConnection _ p).given fun h _ =>
      ⟨h.1.1, h.1.2.grows htook.grows⟩)
    split
    · next hv =>
        rw [hv] at hopened
        exact hopened
    · next hv =>
        rw [hv] at hopened
        exact (hopened.trans (confined_books _ p (fun pool =>
          { pool with total := pool.total - 1, inUse := pool.inUse - 1 }) (fun _ => rfl)
          fun h _ => h.1.1)).gives fun _ _ c hc => by cases hc

/-- The induction is on the connections that are still waiting. One that is passed over is let go
of, and is held by nobody then unless it is so in the end. -/
theorem confined_acquire (p : PoolId) (l : List ConnectionId) :
    ∀ w : World, R.Confined ((R.pools p ∧ R.Roomy w ∧ R.Lodges w l ∧ l.Nodup)
        ∧ ∀ c ∈ l, (World.acquire p l w).2 ≠ .ok c → R.Secures c (World.acquire p l w).1) w
      (World.acquire p l w).1 (∀ c, (World.acquire p l w).2 = .ok c → R.connections c) := by
  induction l with
  | nil => exact fun w => (confined_extend w p).given fun h _ => ⟨h.1.1, h.1.2.1⟩
  | cons c rest ih =>
      intro w
      unfold World.acquire
      simp only
      split
      · obtain ⟨v, hv⟩ : ∃ v, v = w.updatePool p fun pool =>
            { pool with idle := rest, inUse := pool.inUse + 1 } := ⟨_, rfl⟩
        obtain ⟨u, hu⟩ : ∃ u, u = World.acquire p rest (v.retire c) := ⟨_, rfl⟩
        rw [← hv, ← hu]
        have htook : R.Confined ((R.pools p ∧ R.Roomy w ∧ R.Lodges w (c :: rest)
            ∧ (c :: rest).Nodup) ∧ ∀ d ∈ c :: rest, u.2 ≠ .ok d → R.Secures d u.1) w v True :=
          hv ▸ confined_books w p _ (fun _ => rfl) fun h _ => h.1.1
        have hsecure : R.Lodges w (c :: rest) → c ∉ rest →
            (∀ d ∈ c :: rest, u.2 ≠ .ok d → R.Secures d u.1) → R.Secures c (v.retire c) := by
          intro hl hnotin hs key hkey
          have hknown : (v.retire c).connections.Known c :=
            (Registry.known_congr (v.size_connections_retire c) c).mpr
              ((hl c List.mem_cons_self).2.1.mono htook.grows.connections)
          obtain ⟨hstays, hfound⟩ := World.acquire_found (c := c) p rest (v.retire c)
          rw [← hu] at hstays hfound
          refine (hstays hnotin).isHeld hknown (hs c List.mem_cons_self (fun hc => ?_) key hkey)
          exact (hfound c hc).elim hnotin fun hno => hno hknown
        have hretired := htook.trans ((confined_retire v c).given fun h _ => by
          obtain ⟨⟨⟨-, -, hl, hn⟩, hs⟩, -⟩ := h
          obtain ⟨hc, hknown, hp⟩ := hl c List.mem_cons_self
          refine ⟨hc, ?_, hsecure hl (List.nodup_cons.mp hn).1 hs⟩
          rw [Connection.pool_of_frame (htook.grows.frame c hknown)]
          exact hp)
        have hih := ih (v.retire c)
        rw [← hu] at hih
        exact hretired.trans (hih.given fun h _ => by
          obtain ⟨⟨⟨hp, hroomy, hl, hn⟩, hs⟩, -⟩ := h
          exact ⟨⟨hp, hroomy.grows hretired.grows,
            (hl.sublist fun d hd => List.mem_cons_of_mem c hd).grows hretired.grows,
            (List.nodup_cons.mp hn).2⟩, fun d hd => hs d (List.mem_cons_of_mem c hd)⟩)
      · exact (confined_books w p (fun pool => { pool with idle := rest, inUse := pool.inUse + 1 })
          (fun _ => rfl) fun h _ => h.1.1).gives fun h _ d hd => by
            cases hd
            exact (h.1.2.2.1 c List.mem_cons_self).1

/-- **A connection is checked out** of a pool of the region. -/
theorem confined_checkOut (w : World) (p : PoolId) :
    R.Confined ((R.pools p ∧ R.Roomy w ∧ R.Lodges w (w.pool p).idle ∧ (w.pool p).idle.Nodup)
        ∧ ∀ c ∈ (w.pool p).idle, R.Secures c (w.checkOut p).1) w (w.checkOut p).1
      (∀ c, (w.checkOut p).2 = .ok c → R.connections c) := by
  unfold World.checkOut
  split
  · exact (Confined.refl R _ w).gives fun _ _ c hc => by cases hc
  · have hacquired := confined_acquire (R := R) p (w.pool p).idle w
    split
    · next hv =>
        rw [hv] at hacquired
        exact (hacquired.given fun h _ => ⟨h.1, fun c hc _ => h.2 c hc⟩).gives
          fun _ _ c hc => by cases hc
    · next v c hv =>
        rw [hv] at hacquired
        -- what is passed over is not what is handed out
        have hsecure : ∀ d, v.connections.Known d → c ≠ d →
            R.Secures d ((v.updateMetadata c fun metadata => metadata.checkOut v.now).tellChain c
              (.attached c)) → R.Secures d v := fun d hd hne hs key hkey =>
          (World.staysUnheld_handOut hne v).isHeld hd (hs key hkey)
        have htaken := hacquired.given (T := (R.pools p ∧ R.Roomy w
            ∧ R.Lodges w (w.pool p).idle ∧ (w.pool p).idle.Nodup)
            ∧ ∀ d ∈ (w.pool p).idle, R.Secures d ((v.updateMetadata c fun metadata =>
              metadata.checkOut v.now).tellChain c (.attached c))) fun h _ =>
          ⟨h.1, fun d hd hne => hsecure d
            ((h.1.2.2.1 d hd).2.1.mono hacquired.grows.connections) (fun he => hne (he ▸ rfl))
            (h.2 d hd)⟩
        have hmet := htaken.and (confined_updateMetadata v c
          (fun metadata => metadata.checkOut v.now) fun h _ => h.2 c rfl)
        exact (hmet.and ((confined_tellChain _
          (show (Hook.attached c).connection? = some c from rfl) (by rintro ⟨⟩)).given fun h _ =>
            h.2.1 c rfl)).gives fun _ hq d hd => by
              cases hd
              exact hq.1.1 c rfl

/-! ## Whole pools -/

theorem confined_sweep (w : World) (p : PoolId) :
    R.Confined (R.pools p
        ∧ ∀ c ∈ (w.pool p).idle, R.connections c ∧ R.Secures c (w.sweep p).1) w
      (w.sweep p).1 True := by
  have hidle : ∀ c ∈ w.expired p, c ∈ (w.pool p).idle := fun c hc =>
    List.mem_of_mem_filter (List.mem_reverse.mp hc)
  have hbooked := confined_books (R := R)
    (P := R.pools p ∧ ∀ c ∈ (w.pool p).idle, R.connections c ∧ R.Secures c (w.sweep p).1) w p
    (fun pool => { pool with
      idle := pool.idle.filter fun c => !w.isExpired p c
      total := pool.total - (w.expired p).length }) (fun _ => rfl) fun h _ => h.1
  have htorn := hbooked.trans ((confined_teardownAll false (w.expired p) _).given
    fun h _ c hc => (h.1.2 c (hidle c hc)).1)
  exact htorn.trans ((confined_forgetAll (w.expired p) _).given
    fun h _ c hc => h.1.2 c (hidle c hc))

/-- **A pool of the region is closed.** -/
theorem confined_shutDown (w : World) (p : PoolId) :
    R.Confined (R.pools p ∧ (∀ c ∈ (w.pool p).idle, R.connections c ∧ R.Secures c (w.shutDown p))
        ∧ R.Roomy w) w
      (w.shutDown p) True := by
  unfold World.shutDown
  split
  · exact .refl R _ w
  · next ho =>
      obtain ⟨v, hv⟩ : ∃ v, v = w.shutDown p := ⟨_, rfl⟩
      have hshut := hv
      rw [World.shutDown, if_neg ho] at hshut
      have hbooked := confined_books (R := R)
        (P := R.pools p ∧ (∀ c ∈ (w.pool p).idle, R.connections c ∧ R.Secures c v) ∧ R.Roomy w) w p
        (fun pool => { pool with
          closed := true
          idle := []
          total := pool.total - (w.pool p).idle.reverse.length }) (fun _ => rfl) fun h _ => h.1
      have htorn := hbooked.trans ((confined_teardownAll true (w.pool p).idle.reverse _).given
        fun h _ c hc => (h.1.2.1 c (List.mem_reverse.mp hc)).1)
      have htold := htorn.trans ((confined_tellListeners _ p
        (show Hook.poolClosed.connection? = none from rfl)).given fun h _ =>
          ⟨h.1.1, (h.1.2.2.grows htorn.grows).counters⟩)
      have hforgotten := htold.trans ((confined_forgetAll (w.pool p).idle.reverse _).given
        fun h _ c hc => ⟨(h.1.2.1 c (List.mem_reverse.mp hc)).1,
          hshut ▸ (h.1.2.1 c (List.mem_reverse.mp hc)).2⟩)
      dsimp only at hshut ⊢
      rw [← hshut]
      rw [← hshut] at hforgotten
      exact hforgotten

/-- **A pool is started.** -/
theorem confined_startPool (w : World) (config : PoolConfig) :
    R.Confined (R.Roomy w) w (w.startPool config).1
      (∀ p, (w.startPool config).2 = .ok p → R.pools p) := by
  obtain ⟨error, h⟩ | ⟨sources, h⟩ := w.startPool_cases config
  · rw [h]
    exact (Confined.refl R _ w).gives fun _ _ p hp => by cases hp
  · rw [h]
    have hnext : R.Roomy w → R.pools w.pools.next := fun h => h.pools _ w.pools.not_known_next
    have hequip := confined_equip (R := R) (w.equipped_makeInterceptors config.interceptors)
    have hfound : R.Confined (R.Roomy w) w (w.founded config sources) _ :=
      hequip.trans ((confined_found _ _ rfl).given fun h _ => hnext h.1)
    exact (hfound.trans ((confined_tellListeners _ w.pools.next
      (show Hook.poolStarted.connection? = none from rfl)).given fun h _ =>
        ⟨hnext h.1, (h.1.grows hfound.grows).counters⟩)).gives fun h _ p hp => by
          cases hp
          exact hnext h

end Region

end ConnectionPool
