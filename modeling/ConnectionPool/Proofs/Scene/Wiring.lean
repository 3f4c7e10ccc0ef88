import ConnectionPool.Proofs.Scene.Later
import ConnectionPool.Proofs.World.Holders

/-!
# How connections, caches and driver connections are wired together

Every cache of a chain belongs to one connection and is attached to no other; every pooled
connection has a driver's connection of its own, which nobody else has; a drained store is
empty; a connection that waits in a pool is one of that pool and can be torn down without
losing a slot. Statements are parked only where the chain has a cache, and by the time that the
driver's connection is closed that cache has drained the store. `Scene.Wired` says this,
`Scene.OwnTurn.later_and_wired` that it stays so, and `World.Wired.forget_eq` that no store goes
with anything in it.
-/

set_option autoImplicit false

namespace ConnectionPool

/-- **The wiring of a world**, beside which there are the driver connections `lines` and the
caches `own` of a client. -/
structure World.Wired (w : World) (lines : List PhysicalConnectionId) (own : List CacheId) :
    Prop where
  nodup : ∀ c, (w.connection c).caches.Nodup
  apart : ∀ {c d k}, k ∈ (w.connection c).caches → k ∈ (w.connection d).caches → c = d
  own_apart : ∀ {c k}, k ∈ (w.connection c).caches → k ∉ own
  chain_known : ∀ {c k}, k ∈ (w.connection c).caches → w.caches.Known k
  own_known : ∀ k ∈ own, w.caches.Known k
  bound : ∀ {k binding}, (w.cache k).binding = some binding →
    ((w.connection binding.connection).store?).isSome = true
      ∧ (k ∈ own ∨ k ∈ (w.connection binding.connection).caches)
  drained : ∀ c, (w.store c).closed = true → (w.store c).entries.bag = 0
  lines_known : ∀ line ∈ lines, w.driver.connections.Known line
  lines_apart : ∀ line ∈ lines, ∀ c, w.connections.Known c → (w.connection c).physical ≠ line
  physical_known : ∀ c, w.connections.Known c →
    w.driver.connections.Known (w.connection c).physical
  physical_inj : ∀ {c d}, w.connections.Known c → w.connections.Known d →
    (w.connection c).physical = (w.connection d).physical → c = d
  origin_known : ∀ {id line call}, (w.driver.statement id).origin = some (line, call) →
    w.driver.connections.Known line
  idle : ∀ p, ∀ c ∈ (w.pool p).idle,
    w.connections.Known c ∧ (w.connection c).pool = p ∧ w.Ready c
  pool_known : ∀ c, w.connections.Known c → w.pools.Known (w.connection c).pool
  counting : ∀ p, ((w.pool p).counter?).isSome = true → (w.pool p).config.Caching
  chained : ∀ c, w.connections.Known c → (w.pool (w.connection c).pool).config.Caching →
    (w.connection c).caches ≠ []
  counted : ∀ {k binding n}, (w.cache k).binding = some binding → binding.counter = some n →
    (w.connection binding.connection).caches ≠ []
  stocked : ∀ c, (w.connection c).caches = [] → (w.store c).entries.bag = 0
  hung : ∀ c, (w.connection c).closed = true →
    (w.connection c).caches = [] ∨ (w.store c).closed = true

namespace World

theorem known_of_mem_caches {w : World} {c : ConnectionId} {k : CacheId}
    (h : k ∈ (w.connection c).caches) : w.connections.Known c :=
  w.known_of_chain_ne_nil fun hc => by simp [Connection.caches, hc] at h

theorem known_of_isSome_store? {w : World} {c : ConnectionId}
    (h : ((w.connection c).store?).isSome = true) : w.connections.Known c := by
  by_contra hc
  rw [connection, Registry.get_of_not_known hc] at h
  cases h

theorem isSome_store?_setStore_self {w : World} {c : ConnectionId} (h : w.connections.Known c)
    (store : Store) : (((w.setStore c store).connection c).store?).isSome = true := by
  rw [setStore, connection_updateConnection, if_pos ⟨rfl, h⟩]
  simp [Connection.store?]

/-- Beside a new connection, every connection is as it was. -/
theorem connection_register (w : World) (connection : Connection) (c : ConnectionId) :
    c = w.connections.next
        ∧ ({ w with connections := w.connections.register connection } : World).connection c
          = connection
      ∨ c ≠ w.connections.next
        ∧ ({ w with connections := w.connections.register connection } : World).connection c
          = w.connection c := by
  by_cases hc : c = w.connections.next
  · exact Or.inl ⟨hc, by rw [hc]; exact Registry.get_register_next _ _⟩
  · exact Or.inr ⟨hc, (Registry.get_register _ _ _).trans (if_neg hc)⟩

theorem connection_register_of_known {w : World} (connection : Connection) {c : ConnectionId}
    (hc : w.connections.Known c) :
    ({ w with connections := w.connections.register connection } : World).connection c
      = w.connection c :=
  Registry.get_register_of_known _ hc

/-- A new connection has no store yet, so every store is as it was. -/
theorem store_register {w : World} {connection : Connection} (hs : connection.store? = none)
    (c : ConnectionId) :
    ({ w with connections := w.connections.register connection } : World).store c = w.store c := by
  rcases w.connection_register connection c with ⟨rfl, hc⟩ | ⟨-, hc⟩
  · rw [store, hc, hs, w.store_of_not_known w.connections.not_known_next]
    rfl
  · rw [store, hc, ← store]

namespace Wired

variable {w : World} {lines : List PhysicalConnectionId} {own : List CacheId}

theorem binding_connection (h : w.Wired lines own) {c : ConnectionId} {k : CacheId}
    {binding : Binding} (hk : k ∈ (w.connection c).caches)
    (hb : (w.cache k).binding = some binding) : binding.connection = c := by
  rcases (h.bound hb).2 with ho | hc
  · exact absurd ho (h.own_apart hk)
  · exact h.apart hc hk

/-- **No store goes with anything in it**: where a connection was torn down, nothing is parked. -/
theorem forget_eq (h : w.Wired lines own) (c : ConnectionId) : w.forget c = w := by
  rcases w.forget_cases c with hf | ⟨hheld, -, -⟩
  · exact hf
  · have htorn := (isTornDown_iff _).mp ((w.isHeld_eq_false_iff c).mp hheld).1
    refine forget_of_bag_eq_zero ?_
    rcases h.hung c htorn.1 with hnone | hclosed
    · exact h.stocked c hnone
    · exact h.drained c hclosed

theorem foldl_forget_eq (h : w.Wired lines own) (l : List ConnectionId) :
    l.foldl World.forget w = w :=
  forgetAll_rule (P := (· = w)) l rfl fun _ c hv => hv ▸ h.forget_eq c

/-- So a cache is simply attached to something else. -/
theorem rebind_eq {k : CacheId} {binding : Option Binding}
    (h : (w.updateCache k fun cache => { cache with binding }).Wired lines own) :
    w.rebind k binding = w.updateCache k fun cache => { cache with binding } := by
  rcases w.rebind_cases k binding with hr | ⟨earlier, -, hr⟩
  · exact hr
  · rw [hr, h.forget_eq]

/-- What is done to statements and to lines. -/
theorem driver (h : w.Wired lines own) {driver : Driver} {lines' : List PhysicalConnectionId}
    (hk : ∀ line, w.driver.connections.Known line → driver.connections.Known line)
    (ho : ∀ id line call, (driver.statement id).origin = some (line, call) →
      (w.driver.statement id).origin = some (line, call) ∨ line ∈ lines'
        ∨ ∃ c, w.connections.Known c ∧ (w.connection c).physical = line)
    (hl : ∀ line ∈ lines', line ∈ lines
      ∨ (driver.connections.Known line ∧ ¬ w.driver.connections.Known line)) :
    ({ w with driver } : World).Wired lines' own :=
  have hlk : ∀ line ∈ lines', driver.connections.Known line := by
    intro line hline
    rcases hl line hline with hl | hl
    · exact hk line (h.lines_known line hl)
    · exact hl.1
  { h with
    lines_known := hlk
    lines_apart := by
      intro line hline c hc
      rcases hl line hline with hl | hl
      · exact h.lines_apart line hl c hc
      · rintro rfl
        exact hl.2 (h.physical_known c hc)
    physical_known := fun c hc => hk _ (h.physical_known c hc)
    origin_known := by
      intro id line call hid
      rcases ho id line call hid with ho | ho | ⟨c, hc, rfl⟩
      · exact hk line (h.origin_known ho)
      · exact hlk line ho
      · exact hk _ (h.physical_known c hc) }

theorem use (h : w.Wired lines own) (usage : Usage) (id : StatementId) :
    ({ w with driver := w.driver.use usage id } : World).Wired lines own :=
  h.driver (fun line hl => by simpa using hl) (fun id line call ho => Or.inl (by simpa using ho))
    fun _ => Or.inl

theorem closeStatement (h : w.Wired lines own) (id : StatementId) :
    ({ w with driver := (w.driver.closeStatement id).1 } : World).Wired lines own :=
  h.driver (fun line hl => by simpa using hl) (fun id line call ho => Or.inl (by simpa using ho))
    fun _ => Or.inl

/-- A new statement comes from a line that someone has. -/
theorem issue (h : w.Wired lines own) {statement : PhysicalStatement}
    {event : StatementId → DriverEvent}
    (ho : ∀ line call, statement.origin = some (line, call) →
      line ∈ lines ∨ ∃ c, w.connections.Known c ∧ (w.connection c).physical = line) :
    ({ w with driver := (w.driver.issue statement event).1 } : World).Wired lines own := by
  refine h.driver (fun _ hl => hl) (fun id line call hid => ?_) fun _ => Or.inl
  rw [Driver.statement_issue] at hid
  split at hid
  · exact Or.inr (ho line call hid)
  · exact Or.inl hid

theorem openConnection (h : w.Wired lines own) :
    ({ w with driver := w.driver.openConnection.1 } : World).Wired lines own :=
  h.driver (fun _ hl => (Registry.known_register _ _ _).mpr (Or.inl hl))
    (fun _ _ _ => Or.inl) fun _ => Or.inl

/-- The client may have the new line. -/
theorem dial (h : w.Wired lines own) :
    ({ w with driver := w.driver.openConnection.1 } : World).Wired
      (w.driver.connections.next :: lines) own := by
  refine h.driver (fun _ hl => (Registry.known_register _ _ _).mpr (Or.inl hl))
    (fun _ _ _ => Or.inl) fun line hl => ?_
  rcases List.mem_cons.mp hl with rfl | hl
  · exact Or.inr ⟨(Registry.known_register _ _ _).mpr (Or.inr rfl), Registry.not_known_next _⟩
  · exact Or.inl hl

theorem closeConnection (h : w.Wired lines own) (line : PhysicalConnectionId) :
    ({ w with driver := w.driver.closeConnection line } : World).Wired lines own := by
  refine h.driver (fun line hl => ?_) (fun id line call ho => ?_) fun _ => Or.inl
  · rw [Registry.Known, Driver.size_connections_closeConnection]
    exact hl
  · rw [Driver.statement, Driver.statements_closeConnection] at ho
    exact Or.inl ho

/-- Connections are written to, but keep their frames. -/
theorem reframe (h : w.Wired lines own) {connections : Registry Connection}
    (hk : ∀ c, connections.Known c ↔ w.connections.Known c)
    (hf : ∀ c, (connections.get c).frame = (w.connection c).frame)
    (hl : w.Later { w with connections })
    (hd : ∀ c, (({ w with connections } : World).store c).closed = true →
      (({ w with connections } : World).store c).entries.bag = 0)
    (hs : ∀ c, (w.connection c).caches = [] →
      (({ w with connections } : World).store c).entries.bag = 0)
    (hh : ∀ c, (connections.get c).closed = true → (w.connection c).caches = []
      ∨ (({ w with connections } : World).store c).closed = true) :
    ({ w with connections } : World).Wired lines own :=
  have hc : ∀ c, (connections.get c).caches = (w.connection c).caches :=
    fun c => Connection.caches_of_frame (hf c)
  have hp : ∀ c, (connections.get c).physical = (w.connection c).physical :=
    fun c => Connection.physical_of_frame (hf c)
  { h with
    nodup := fun c => (hc c).symm ▸ h.nodup c
    apart := fun hkc hkd => h.apart ((hc _) ▸ hkc) ((hc _) ▸ hkd)
    own_apart := fun hkc => h.own_apart ((hc _) ▸ hkc)
    chain_known := fun hkc => h.chain_known ((hc _) ▸ hkc)
    bound := fun hb => ⟨hl.stored _ (h.bound hb).1, (h.bound hb).2.imp_right ((hc _).symm ▸ ·)⟩
    drained := hd
    lines_apart := fun line hline c hck =>
      (hp c).symm ▸ h.lines_apart line hline c ((hk c).mp hck)
    physical_known := fun c hck => (hp c).symm ▸ h.physical_known c ((hk c).mp hck)
    physical_inj := fun hck hdk hcd =>
      h.physical_inj ((hk _).mp hck) ((hk _).mp hdk) ((hp _).symm.trans (hcd.trans (hp _)))
    idle := fun p c hcp => by
      obtain ⟨hck, hpool, hr⟩ := h.idle p c hcp
      exact ⟨(hk c).mpr hck, (Connection.pool_of_frame (hf c)).trans hpool, hl.ready c hck hr⟩
    pool_known := fun c hck =>
      (Connection.pool_of_frame (hf c)).symm ▸ h.pool_known c ((hk c).mp hck)
    chained := fun c hck hcaching => (hc c).symm ▸ h.chained c ((hk c).mp hck)
      ((Connection.pool_of_frame (hf c)) ▸ hcaching)
    counted := fun hb hn => (hc _).symm ▸ h.counted hb hn
    stocked := fun c hnone => hs c ((hc c) ▸ hnone)
    hung := fun c hclosed => (hc c).symm ▸ hh c hclosed }

/-- A store is written to: one where nothing may be parked stays empty. -/
theorem setStore (h : w.Wired lines own) {c : ConnectionId} {store : Store}
    (hc : (w.store c).closed = true → store.closed = true)
    (he : store.closed = true → store.entries.bag = 0)
    (hs : (w.connection c).caches = [] → store.entries.bag = 0) :
    (w.setStore c store).Wired lines own := by
  have hlater : w.Later (w.setStore c store) := later_setStore hc
  have hclosed : ∀ d, ((w.setStore c store).connection d).closed = (w.connection d).closed :=
    w.connection_updateConnection_congr c _ Connection.closed fun _ => rfl
  refine h.reframe (w.known_setStore c store) (w.frame_setStore c store) hlater
    (fun d hd => ?_) (fun d hd => ?_) fun d hd => ?_
  · change ((w.setStore c store).store d).closed = true at hd
    show ((w.setStore c store).store d).entries.bag = 0
    rw [store_setStore] at hd ⊢
    split
    · next hcd => exact he (by rwa [if_pos hcd] at hd)
    · next hcd => exact h.drained d (by rwa [if_neg hcd] at hd)
  · show ((w.setStore c store).store d).entries.bag = 0
    rw [store_setStore]
    split
    · next hcd =>
        obtain ⟨rfl, -⟩ := hcd
        exact hs hd
    · exact h.stocked d hd
  · exact (h.hung d ((hclosed d).symm.trans hd)).imp_right (hlater.drained d)

/-- What is taken out was in a store that is not drained. -/
theorem take (h : w.Wired lines own) {c : ConnectionId} {key : CacheKey} {tracked : Tracked}
    {store : Store} (hf : (w.store c).entries.get? key = some tracked)
    (hc : store.closed = (w.store c).closed) : (w.setStore c store).Wired lines own := by
  have hsome : (w.store c).entries.bag ≠ 0 := by
    rw [← Table.bag_erase _ hf]
    exact Multiset.cons_ne_zero
  exact h.setStore (fun hclosed => hc.trans hclosed)
    (fun hclosed => absurd (h.drained c (hc.symm.trans hclosed)) hsome)
    fun hnone => absurd (h.stocked c hnone) hsome

/-- A statement is counted, and parked in a store that is not drained, where the chain has a
cache. -/
theorem park (h : w.Wired lines own) {c : ConnectionId} (hc : (w.store c).closed = false)
    (hs : (w.connection c).caches ≠ []) (n : CounterId) (change : Counter → Counter) (key : CacheKey) (tracked : Tracked) :
    ((w.updateCounter n change).setStore c ((w.store c).park key tracked)).Wired lines own :=
  have hcounted : (w.updateCounter n change).Wired lines own := { h with }
  have hopen : ¬ ((w.store c).park key tracked).closed = true :=
    fun hclosed => absurd (hclosed.symm.trans hc) (by decide)
  hcounted.setStore (fun hclosed => absurd (hclosed.symm.trans hc) (by decide))
    (fun hclosed => absurd hclosed hopen) fun hnone => absurd hnone hs

/-- The driver's connection is closed, once the store is drained if there can be anything in it. -/
theorem setClosed (h : w.Wired lines own) {c : ConnectionId}
    (hc : (w.connection c).caches = [] ∨ (w.store c).closed = true) :
    (w.updateConnection c fun connection => { connection with closed := true }).Wired
      lines own := by
  have hs : ∀ d, (w.updateConnection c fun connection =>
      { connection with closed := true }).store d = w.store d := w.store_setClosed c
  refine h.reframe (fun d => Registry.known_modify _ _ _ _)
    (w.connection_updateConnection_congr c (fun connection => { connection with closed := true })
      Connection.frame fun _ => rfl) (w.later_setClosed c) (fun d hd => ?_) (fun d hd => ?_)
      fun d hd => ?_
  · change ((w.updateConnection c fun connection =>
      { connection with closed := true }).store d).closed = true at hd
    show ((w.updateConnection c fun connection =>
      { connection with closed := true }).store d).entries.bag = 0
    rw [hs] at hd ⊢
    exact h.drained d hd
  · show ((w.updateConnection c fun connection =>
      { connection with closed := true }).store d).entries.bag = 0
    rw [hs]
    exact h.stocked d hd
  · change ((w.updateConnection c fun connection =>
      { connection with closed := true }).connection d).closed = true at hd
    show _ ∨ ((w.updateConnection c fun connection =>
      { connection with closed := true }).store d).closed = true
    rw [hs]
    rw [connection_updateConnection] at hd
    split at hd
    · next hcd => exact hcd.1 ▸ hc
    · exact h.hung d hd

theorem releaseSlot (h : w.Wired lines own) (n : Option CounterId) :
    (w.releaseSlot n).Wired lines own := by
  cases n with
  | none => exact h
  | some n => exact { h with }

/-- A cache is attached or detached. -/
theorem bind (h : w.Wired lines own) {k : CacheId} {binding : Option Binding}
    (hl : w.Later (w.updateCache k fun cache => { cache with binding }))
    (hb : ∀ b, binding = some b → ((w.connection b.connection).store?).isSome = true
      ∧ (k ∈ own ∨ k ∈ (w.connection b.connection).caches))
    (hn : ∀ b n, binding = some b → b.counter = some n →
      (w.connection b.connection).caches ≠ []) :
    (w.updateCache k fun cache => { cache with binding }).Wired lines own :=
  { h with
    counted := fun {l b n} hlb => by
      rw [cache_updateCache] at hlb
      split at hlb
      · next hkl =>
          obtain ⟨rfl, -⟩ := hkl
          exact hn b n hlb
      · exact h.counted hlb
    chain_known := fun hk => (hl.caches _ (h.chain_known hk)).1
    own_known := fun k hk => (hl.caches k (h.own_known k hk)).1
    bound := fun {l b} hlb => by
      rw [cache_updateCache] at hlb
      split at hlb
      · next hkl =>
          obtain ⟨rfl, -⟩ := hkl
          exact hb b hlb
      · exact h.bound hlb
    idle := fun p c hc => by
      obtain ⟨hk, hp, hr⟩ := h.idle p c hc
      exact ⟨hk, hp, hl.ready c hk hr⟩ }

theorem sameCaching {w' : World} (h : w.Wired lines own) (hw : w.SameCaching w') :
    w'.Wired lines own where
  nodup c := by rw [Connection.caches_of_frame (hw.frame c)]; exact h.nodup c
  apart := fun hc hd => by
    rw [Connection.caches_of_frame (hw.frame _)] at hc hd
    exact h.apart hc hd
  own_apart := fun hc => by
    rw [Connection.caches_of_frame (hw.frame _)] at hc
    exact h.own_apart hc
  chain_known := fun hc => by
    rw [Connection.caches_of_frame (hw.frame _)] at hc
    rw [hw.caches]
    exact h.chain_known hc
  own_known k hk := by rw [hw.caches]; exact h.own_known k hk
  bound := fun {k b} hb => by
    rw [hw.cache k] at hb
    rw [hw.store?, Connection.caches_of_frame (hw.frame _)]
    exact h.bound hb
  drained c hc := by
    rw [hw.store c] at hc ⊢
    exact h.drained c hc
  lines_known line hl := by rw [hw.lines]; exact h.lines_known line hl
  lines_apart line hl c hc := by
    rw [Connection.physical_of_frame (hw.frame c)]
    exact h.lines_apart line hl c ((hw.known c).mp hc)
  physical_known c hc := by
    rw [Connection.physical_of_frame (hw.frame c), hw.lines]
    exact h.physical_known c ((hw.known c).mp hc)
  physical_inj := fun {c d} hc hd hcd => by
    rw [Connection.physical_of_frame (hw.frame _), Connection.physical_of_frame (hw.frame _)]
      at hcd
    exact h.physical_inj ((hw.known c).mp hc) ((hw.known d).mp hd) hcd
  origin_known := fun {id line call} ho => by
    rw [hw.statement id] at ho
    rw [hw.lines]
    exact h.origin_known ho
  idle p c hc := by
    have hold : w.connections.Known c ∧ (w.connection c).pool = p ∧ w.Ready c := by
      rcases hw.idle p c hc with hc | hc
      · exact h.idle p c hc
      · exact hc
    obtain ⟨hk, hp, hr⟩ := hold
    exact ⟨(hw.known c).mpr hk, (Connection.pool_of_frame (hw.frame c)).trans hp,
      hw.later.ready c hk hr⟩
  pool_known c hc := by
    rw [Connection.pool_of_frame (hw.frame c)]
    exact (hw.known_pool _).mpr (h.pool_known c ((hw.known c).mp hc))
  counting p hn := by
    rw [hw.config p]
    exact h.counting p (by rwa [hw.counter? p] at hn)
  chained c hc hcaching := by
    rw [Connection.pool_of_frame (hw.frame c), hw.config] at hcaching
    rw [Connection.caches_of_frame (hw.frame c)]
    exact h.chained c ((hw.known c).mp hc) hcaching
  counted := fun {k b n} hb hn => by
    rw [hw.cache k] at hb
    rw [Connection.caches_of_frame (hw.frame _)]
    exact h.counted hb hn
  stocked c hc := by
    rw [Connection.caches_of_frame (hw.frame c)] at hc
    rw [hw.store c]
    exact h.stocked c hc
  hung c hc := by
    rw [hw.closed c] at hc
    rw [Connection.caches_of_frame (hw.frame c), hw.store c]
    exact h.hung c hc

/-- A change of pools, after which nothing waits that did not wait before. Pools keep their
configurations, and only one that is configured with a cache has a counter. -/
theorem pools (h : w.Wired lines own) {pools : Registry Pool}
    (hk : ∀ p, w.pools.Known p → pools.Known p ∧ (pools.get p).config = (w.pool p).config)
    (hn : ∀ p, ((pools.get p).counter?).isSome = true → (pools.get p).config.Caching)
    (hi : ∀ p, ∀ c ∈ (pools.get p).idle, c ∈ (w.pool p).idle) :
    ({ w with pools } : World).Wired lines own :=
  { h with
    idle := fun p c hc => h.idle p c (hi p c hc)
    pool_known := fun c hc => (hk _ (h.pool_known c hc)).1
    counting := hn
    chained := fun c hc hcaching =>
      h.chained c hc ((hk _ (h.pool_known c hc)).2 ▸ hcaching) }

/-- A pool is changed, but neither in its configuration nor so that it gets a counter or something
to wait in it. -/
theorem updatePool (h : w.Wired lines own) (p : PoolId) {f : Pool → Pool}
    (hc : ∀ pool, (f pool).config = pool.config)
    (hn : ∀ pool, ((f pool).counter?).isSome = true →
      (pool.counter?).isSome = true ∨ (w.pool p = pool → (w.pool p).config.Caching))
    (hi : ∀ pool, ∀ c ∈ (f pool).idle, c ∈ pool.idle) :
    (w.updatePool p f).Wired lines own := by
  refine h.pools (fun q hq => ⟨(Registry.known_modify _ _ _ _).mpr hq,
    w.pools.get_modify_congr p f Pool.config hc q⟩) (fun q hq => ?_) fun q c hq => ?_
  · rw [w.pools.get_modify_congr p f Pool.config hc q]
    rw [Registry.get_modify] at hq
    split at hq
    · next hpq =>
        obtain ⟨rfl, -⟩ := hpq
        exact (hn _ hq).elim (h.counting p) fun h => h rfl
    · exact h.counting q hq
  · rw [Registry.get_modify] at hq
    split at hq
    · exact hi _ c hq
    · exact hq

/-- New caches come to be, which are attached to nothing. -/
theorem equip (h : w.Wired lines own) {v : World}
    (hk : ∀ k, w.caches.Known k → v.caches.Known k ∧ v.cache k = w.cache k)
    (hn : ∀ k, ¬ w.caches.Known k → (v.cache k).binding = none) {own' : List CacheId}
    (ho : ∀ k ∈ own', k ∈ own ∨ (v.caches.Known k ∧ ¬ w.caches.Known k))
    (hs : ∀ k ∈ own, k ∈ own') :
    ({ w with caches := v.caches } : World).Wired lines own' :=
  { h with
    own_apart := by
      intro c k hc hko
      rcases ho k hko with hko | hko
      · exact h.own_apart hc hko
      · exact hko.2 (h.chain_known hc)
    chain_known := fun hc => (hk _ (h.chain_known hc)).1
    own_known := by
      intro k hko
      rcases ho k hko with hko | hko
      · exact (hk k (h.own_known k hko)).1
      · exact hko.1
    bound := by
      intro k b hb
      by_cases hkk : w.caches.Known k
      · change (v.cache k).binding = some b at hb
        rw [(hk k hkk).2] at hb
        obtain ⟨hst, hkb⟩ := h.bound hb
        exact ⟨hst, hkb.imp_left (hs k)⟩
      · change (v.cache k).binding = some b at hb
        rw [hn k hkk] at hb
        exact nomatch hb
    counted := by
      intro k b n hb
      by_cases hkk : w.caches.Known k
      · change (v.cache k).binding = some b at hb
        rw [(hk k hkk).2] at hb
        exact h.counted hb
      · change (v.cache k).binding = some b at hb
        rw [hn k hkk] at hb
        exact nomatch hb
    idle := by
      intro p c hc
      obtain ⟨hck, hp, hr⟩ := h.idle p c hc
      refine ⟨hck, hp, hr.congr rfl (fun k hkc => ?_) fun hd => hd⟩
      exact congrArg _ (hk k (h.chain_known hkc)).2 }

/-- A connection of a known pool comes to be, with a driver's connection that nobody has and
on which nothing was made, and with caches that are in no chain. -/
theorem register (h : w.Wired lines own) {connection : Connection}
    (hs : connection.store? = none) (hopen : connection.closed = false)
    (hp : w.pools.Known connection.pool)
    (hcaching : (w.pool connection.pool).config.Caching → connection.caches ≠ [])
    (hl : w.driver.connections.Known connection.physical)
    (hlines : connection.physical ∉ lines)
    (hphysical : ∀ c, w.connections.Known c → (w.connection c).physical ≠ connection.physical)
    (hn : connection.caches.Nodup)
    (hk : ∀ k ∈ connection.caches, w.caches.Known k ∧ k ∉ own
      ∧ ∀ c, k ∉ (w.connection c).caches) :
    ({ w with connections := w.connections.register connection } : World).Wired lines own := by
  have hcase := w.connection_register connection
  have hold : ∀ {c}, (w.connections.register connection).Known c → c ≠ w.connections.next →
      w.connections.Known c := fun hc hne =>
    ((Registry.known_register _ _ _).mp hc).resolve_right hne
  exact
    { h with
      nodup := by
        intro c
        rcases hcase c with ⟨-, hc⟩ | ⟨-, hc⟩ <;> rw [hc]
        · exact hn
        · exact h.nodup c
      apart := by
        intro c d k hkc hkd
        rcases hcase c with ⟨hcn, hc⟩ | ⟨-, hc⟩ <;> rcases hcase d with ⟨hdn, hd⟩ | ⟨-, hd⟩ <;>
          rw [hc] at hkc <;> rw [hd] at hkd
        · exact hcn.trans hdn.symm
        · exact absurd hkd ((hk k hkc).2.2 d)
        · exact absurd hkc ((hk k hkd).2.2 c)
        · exact h.apart hkc hkd
      own_apart := by
        intro c k hkc
        rcases hcase c with ⟨-, hc⟩ | ⟨-, hc⟩ <;> rw [hc] at hkc
        · exact (hk k hkc).2.1
        · exact h.own_apart hkc
      chain_known := by
        intro c k hkc
        rcases hcase c with ⟨-, hc⟩ | ⟨-, hc⟩ <;> rw [hc] at hkc
        · exact (hk k hkc).1
        · exact h.chain_known hkc
      bound := by
        intro k b hb
        have hwas := h.bound hb
        rw [connection_register_of_known connection (known_of_isSome_store? hwas.1)]
        exact hwas
      drained := by
        intro c hd
        rw [store_register hs] at hd ⊢
        exact h.drained c hd
      lines_apart := by
        intro line hline c hck
        rcases hcase c with ⟨-, hc⟩ | ⟨hne, hc⟩ <;> rw [hc]
        · rintro rfl
          exact hlines hline
        · exact h.lines_apart line hline c (hold hck hne)
      physical_known := by
        intro c hck
        rcases hcase c with ⟨-, hc⟩ | ⟨hne, hc⟩ <;> rw [hc]
        · exact hl
        · exact h.physical_known c (hold hck hne)
      physical_inj := by
        intro c d hck hdk hcd
        rcases hcase c with ⟨hcn, hc⟩ | ⟨hcn, hc⟩ <;> rcases hcase d with ⟨hdn, hd⟩ | ⟨hdn, hd⟩ <;>
          rw [hc, hd] at hcd
        · exact hcn.trans hdn.symm
        · exact absurd hcd.symm (hphysical d (hold hdk hdn))
        · exact absurd hcd (hphysical c (hold hck hcn))
        · exact h.physical_inj (hold hck hcn) (hold hdk hdn) hcd
      idle := by
        intro p c hc
        obtain ⟨hck, hcp, hr⟩ := h.idle p c hc
        have hget := connection_register_of_known connection hck
        refine ⟨(Registry.known_register _ _ _).mpr (Or.inl hck), by rw [hget]; exact hcp,
          hr.congr (congrArg _ hget) (fun _ _ => rfl) fun hd => ?_⟩
        rw [store_register hs]
        exact hd
      pool_known := by
        intro c hck
        rcases hcase c with ⟨-, hc⟩ | ⟨hne, hc⟩ <;> rw [hc]
        · exact hp
        · exact h.pool_known c (hold hck hne)
      chained := by
        intro c hck hconfig
        rcases hcase c with ⟨-, hc⟩ | ⟨hne, hc⟩ <;> rw [hc] at hconfig ⊢
        · exact hcaching hconfig
        · exact h.chained c (hold hck hne) hconfig
      counted := by
        intro k b n hb hn
        rw [connection_register_of_known connection (known_of_isSome_store? (h.bound hb).1)]
        exact h.counted hb hn
      stocked := by
        intro c hnone
        rw [store_register hs]
        rcases hcase c with ⟨rfl, -⟩ | ⟨-, hc⟩
        · rw [w.store_of_not_known w.connections.not_known_next]
          rfl
        · rw [hc] at hnone
          exact h.stocked c hnone
      hung := by
        intro c hclosed
        rw [store_register hs]
        rcases hcase c with ⟨-, hc⟩ | ⟨-, hc⟩ <;> rw [hc] at hclosed ⊢
        · rw [hopen] at hclosed
          cases hclosed
        · exact h.hung c hclosed }

end Wired

/-! ## Later worlds, where the wiring matters -/

theorem later_equip {w v : World} (hc : ∀ {c k}, k ∈ (w.connection c).caches → w.caches.Known k)
    (hk : ∀ k, w.caches.Known k → v.caches.Known k ∧ v.cache k = w.cache k) :
    w.Later { w with caches := v.caches } :=
  { Later.refl w with
    caches := fun k hkk => ⟨(hk k hkk).1, congrArg _ (hk k hkk).2⟩
    ready := fun _ _ hr =>
      hr.congr rfl (fun k hkc => congrArg _ (hk k (hc hkc)).2) fun hd => hd }

theorem later_register (w : World) (connection : Connection) :
    w.Later { w with connections := w.connections.register connection } := by
  have hg : ∀ {c}, w.connections.Known c →
      ({ w with connections := w.connections.register connection } : World).connection c
        = w.connection c := connection_register_of_known connection
  have hs : ∀ {c}, w.connections.Known c →
      ({ w with connections := w.connections.register connection } : World).store c
        = w.store c := fun hc => by
    rw [World.store, hg hc, ← World.store]
  exact
    { Later.refl w with
      connections := fun c hc =>
        ⟨(Registry.known_register _ _ _).mpr (Or.inl hc), congrArg _ (hg hc)⟩
      stored := by
        intro c hc
        rw [hg (known_of_isSome_store? hc)]
        exact hc
      drained := by
        intro c hd
        by_cases hc : w.connections.Known c
        · rw [hs hc]
          exact hd
        · rw [w.store_of_not_known hc] at hd
          cases hd
      ready := fun c hc hr =>
        hr.congr (congrArg _ (hg hc)) (fun _ _ => rfl) fun hd => by rw [hs hc]; exact hd }

theorem later_park {w : World} {c : ConnectionId} (hc : (w.store c).closed = false)
    (n : CounterId) (change : Counter → Counter) (key : CacheKey) (tracked : Tracked) :
    w.Later ((w.updateCounter n change).setStore c ((w.store c).park key tracked)) :=
  (later_updateCounter _ _).trans
    (later_setStore fun hclosed => absurd (hclosed.symm.trans hc) (by decide))

end World

/-! ## Scenes -/

namespace Scene

/-- **The wiring of a scene.** -/
abbrev Wired (S : Scene) : Prop := S.world.Wired S.lines S.own

variable {S S' : Scene}

/-- By cases on the step: the driver serves, a store is written to, a cache is bound, or lines and
connections come and go. -/
theorem Step.later_and_wired (h : Step S S') (hS : S.Wired) :
    S.world.Later S'.world ∧ S'.Wired := by
  cases h with
  | book hw => exact ⟨hw.later, hS.sameCaching hw⟩
  | use usage _ => exact ⟨World.later_use _ _, hS.use usage _⟩
  | shut _ | dispose _ => exact ⟨World.later_closeStatement _, hS.closeStatement _⟩
  | peel _ | lapse _ | spend | give _ _ | fill _ _ _ _ _ => exact ⟨.refl _, hS⟩
  | issue _ _ ho => exact ⟨World.later_issue _ _, hS.issue ho⟩
  | @answer c position interceptor call sql hl _ =>
      have hissued : ({ S.world with driver := (S.world.driver.looseStatement sql).1 } :
          World).Wired S.lines S.own := hS.issue fun _ _ ho => nomatch ho
      exact ⟨(World.later_issue _ _).trans (World.later_note _ _ _), { hissued with }⟩
  | passUp _ _ _ _ _ | handOut _ _ _ _ _ => exact ⟨World.later_note _ _ _, { hS with }⟩
  | @hit c position interceptor k binding key tracked call hl hk hb _ hf =>
      have htaken : (S.world.setStore binding.connection
          ((S.world.store binding.connection).remove key).recordHit).Wired S.lines S.own :=
        hS.take hf rfl
      have hlater : S.world.Later (S.world.setStore binding.connection
          ((S.world.store binding.connection).remove key).recordHit) :=
        World.later_setStore fun hclosed => hclosed
      exact ⟨hlater.trans ((World.later_releaseSlot _).trans (World.later_note _ _ _)),
        { htaken.releaseSlot binding.counter with }⟩
  | park _ hb _ hc _ _ _ =>
      exact ⟨World.later_park hc _ _ _ _, hS.park hc (hS.counted hb rfl) _ _ _ _⟩
  | take _ hf _ hc =>
      exact ⟨World.later_setStore fun hclosed => hc.trans hclosed, hS.take hf hc⟩
  | tally c he hc =>
      refine ⟨World.later_setStore fun hclosed => hc.trans hclosed,
        hS.setStore (fun hclosed => hc.trans hclosed) (fun hclosed => ?_) fun hnone => ?_⟩
      · rw [he]
        exact hS.drained _ (hc.symm.trans hclosed)
      · rw [he]
        exact hS.stocked _ hnone
  | drain _ _ =>
      exact ⟨World.later_setStore fun _ => rfl,
        hS.setStore (fun _ => rfl) (fun _ => rfl) fun _ => rfl⟩
  | repay _ => exact ⟨World.later_releaseSlot _, hS.releaseSlot _⟩
  | @attach c k hk hp hs =>
      -- the cache is in the chain of this connection alone, or in none
      have hl : S.world.Later (S.world.updateCache k fun cache =>
          { cache with
            binding := some ⟨c, (S.world.pool (S.world.connection c).pool).counter?⟩ }) := by
        refine World.later_bind fun d hd => ?_
        rcases hk with hk | hk
        · exact Or.inr ⟨_, by rw [hS.apart hk hd]⟩
        · exact absurd hk (hS.own_apart hd)
      refine ⟨hl, hS.bind hl ?_ ?_⟩
      · rintro b ⟨⟩
        exact ⟨hs, hk.symm⟩
      · rintro b n ⟨⟩ hn
        exact hS.chained c (World.known_of_isSome_store? hs)
          (hS.counting _ (Option.isSome_iff_exists.mpr ⟨n, hn⟩))
  | @detach k hk =>
      have hl : S.world.Later
          (S.world.updateCache k fun cache => { cache with binding := none }) := by
        refine World.later_bind fun d hd => Or.inl ?_
        rcases hk with hk | ⟨c, hk, hc⟩
        · exact absurd hk (hS.own_apart hd)
        · rwa [hS.apart hd hk]
      exact ⟨hl, hS.bind hl (fun _ hb => nomatch hb) fun _ _ hb => nomatch hb⟩
  | dial => exact ⟨World.later_openConnection, hS.dial⟩
  | cut _ => exact ⟨World.later_closeConnection _, hS.closeConnection _⟩
  | misdial =>
      exact ⟨World.later_openConnection.trans (World.later_closeConnection _),
        hS.openConnection.closeConnection _⟩
  | @hangUp c _ hs =>
      exact ⟨(World.later_setClosed c).trans (World.later_closeConnection _),
        (hS.setClosed hs).closeConnection _⟩
  | @connect p w chain metadata hp hw =>
      have hopened := hS.openConnection
      have hequipped : ({ S.world with
          driver := S.world.driver.openConnection.1, caches := w.caches } : World).Wired
          S.lines S.own :=
        hopened.equip hw.caches_known hw.caches_new (fun k hk => Or.inl hk) fun k hk => hk
      have hlater := World.later_equip (w := { S.world with
        driver := S.world.driver.openConnection.1 }) (v := w)
        (fun hk => hS.chain_known hk) hw.caches_known
      -- nobody can have the line, since the driver has only just made it
      have hnext := S.world.driver.connections.not_known_next
      refine ⟨World.later_openConnection.trans (hlater.trans (World.later_register _ _)),
        hequipped.register rfl rfl (World.known_of_pool_open _ hp) hw.caching ?_ ?_ ?_
          hw.nodup ?_⟩
      · exact (Registry.known_register _ _ _).mpr (Or.inr rfl)
      · exact fun hl => hnext (hS.lines_known _ hl)
      · intro c hc heq
        change (S.world.connection c).physical = S.world.driver.connections.next at heq
        exact hnext (heq ▸ hS.physical_known c hc)
      · intro k hk
        obtain ⟨hkw, hnew⟩ := hw.chain_new k hk
        exact ⟨hkw, fun ho => hnew (hS.own_known k ho), fun c hc => hnew (hS.chain_known hc)⟩

/-- A step leaves the settings of every pool alone. -/
theorem Step.pool_body (h : Step S S') (p : PoolId) :
    (S'.world.pool p).body = (S.world.pool p).body := by
  cases h with
  | book hw => exact hw.pool p
  | @repay n _ _ => cases n <;> rfl
  | @hit _ _ _ _ binding _ _ _ _ _ _ _ _ => rcases binding with ⟨c, _ | n⟩ <;> rfl
  | _ => rfl

theorem Turn.later_and_wired (h : Turn S S') (hS : S.Wired) :
    S.world.Later S'.world ∧ S'.Wired := by
  cases h with
  | step h => exact h.later_and_wired hS
  | @found config sources w listeners hw =>
      have hl := World.later_equip (v := w) (fun hk => hS.chain_known hk) hw.caches_known
      have he : ({ S.world with caches := w.caches } : World).Wired S.lines S.own :=
        hS.equip hw.caches_known hw.caches_new (fun k hk => Or.inl hk) fun k hk => hk
      have hread : ∀ {p}, S.world.pools.Known p → (S.world.pools.register
          { config, sources, listeners }).get p = S.world.pool p :=
        Registry.get_register_of_known _
      refine ⟨hl.trans { World.Later.refl _ with
          pools := fun p hp => (Registry.known_register _ _ _).mpr (Or.inl hp) },
        he.pools (fun p hp => ⟨(Registry.known_register _ _ _).mpr (Or.inl hp),
          congrArg Pool.config (hread hp)⟩) (fun p hn => ?_) fun p c hc => ?_⟩
      · rw [Registry.get_register] at hn ⊢
        split at hn
        · exact nomatch hn
        · next hne =>
            rw [if_neg hne]
            exact hS.counting p hn
      · rw [Registry.get_register] at hc
        split at hc
        · exact nomatch hc
        · exact hc
  | @count p ho hn hcaching =>
      rw [S.world.startCounting_of_none hn]
      have hcounters : ({ S.world with counters := S.world.counters.register {} } : World).Wired
          S.lines S.own := { hS with }
      exact ⟨{ World.Later.refl _ with
          pools := fun p hp => (Registry.known_modify _ _ _ _).mpr hp },
        hcounters.updatePool p (fun _ => rfl) (fun _ _ => Or.inr fun _ => hcaching) fun _ _ hc => hc⟩
  | close p total =>
      exact ⟨World.later_updatePool _ _,
        hS.updatePool p (fun _ => rfl) (fun _ hn => Or.inl hn) fun _ _ hc => nomatch hc⟩
  | @uncount p hc =>
      refine ⟨World.later_updatePool _ _,
        hS.updatePool p (fun _ => rfl) (fun pool hn => ?_) fun _ _ hc => hc⟩
      simp [Pool.counter?, Attributes.get?_erase] at hn

theorem OwnTurn.later_and_wired {Fits : CachePolicy → Prop} (h : OwnTurn Fits S S')
    (hS : S.Wired) : S.world.Later S'.world ∧ S'.Wired := by
  cases h with
  | turn h => exact h.later_and_wired hS
  | sort _ _ => exact ⟨.refl _, hS⟩
  | @adopt policy fallible hp =>
      have hk : ∀ k, S.world.caches.Known k → (S.world.newCache policy fallible).1.caches.Known k
          ∧ (S.world.newCache policy fallible).1.cache k = S.world.cache k :=
        fun k hk => ⟨(Registry.known_register _ _ _).mpr (Or.inl hk),
          Registry.get_register_of_known _ hk⟩
      refine ⟨World.later_equip (fun hc => hS.chain_known hc) hk, ?_⟩
      refine hS.equip (v := (S.world.newCache policy fallible).1) hk (fun k hk => ?_)
        (fun k hk => ?_) fun k hk => List.mem_cons_of_mem _ hk
      · rw [World.cache, World.newCache, Registry.get_register]
        split
        · rfl
        · rw [Registry.get_of_not_known hk]
          rfl
      · rcases List.mem_cons.mp hk with rfl | hk
        · exact Or.inr ⟨(Registry.known_register _ _ _).mpr (Or.inr rfl),
            Registry.not_known_next _⟩
        · exact Or.inl hk
  | offer _ hb _ hc _ =>
      exact ⟨World.later_park hc _ _ _ _, hS.park hc (hS.counted hb rfl) _ _ _ _⟩

/-- What a turn preserves, a run of turns preserves; the wiring may be used on the way. -/
theorem OwnTurns.induct {Fits : CachePolicy → Prop} {P : Scene → Prop}
    (hP : ∀ {S S' : Scene}, OwnTurn Fits S S' → S.Wired → P S → P S')
    (h : OwnTurns Fits S S') (hS : S.Wired) (hPS : P S) :
    S.world.Later S'.world ∧ S'.Wired ∧ P S' := by
  induction h with
  | refl => exact ⟨.refl _, hS, hPS⟩
  | tail _ hturn ih =>
      obtain ⟨hl, hw, hp⟩ := ih
      obtain ⟨hl', hw'⟩ := hturn.later_and_wired hw
      exact ⟨hl.trans hl', hw', hP hturn hw hp⟩

/-! ## Caches and connections that come to be -/

theorem Step.own (h : Step S S') : S'.own = S.own := by cases h <;> rfl

theorem Turn.own (h : Turn S S') : S'.own = S.own := by
  cases h with
  | step h => exact h.own
  | _ => rfl

/-- A client makes caches of fitting policies only. -/
theorem OwnTurn.own {Fits : CachePolicy → Prop} (h : OwnTurn Fits S S') {k : CacheId}
    (hk : k ∈ S'.own) : k ∈ S.own ∨ Fits (S'.world.cache k).policy := by
  cases h with
  | turn h =>
      rw [h.own] at hk
      exact Or.inl hk
  | @adopt policy fallible hp =>
      rcases List.mem_cons.mp hk with rfl | hk
      · right
        show Fits ((S.world.caches.register { policy, fallible }).get S.world.caches.next).policy
        rw [Registry.get_register_next]
        exact hp
      · exact Or.inl hk
  | sort _ _ => exact Or.inl hk
  | offer _ _ _ _ _ => exact Or.inl hk

/-- An open pool has opened a connection, with new caches and a new line, both of them open. -/
structure Opened (S S' : Scene) (c : ConnectionId) : Prop where
  line : ¬ S.world.driver.connections.Known (S'.world.connection c).physical
  live : (S'.world.connection c).closed = false
    ∧ (S'.world.driver.connection (S'.world.connection c).physical).closed = false
  pool : (S.world.pool (S'.world.connection c).pool).closed = false
  equipped : ∃ w : World, S'.world.caches = w.caches
    ∧ S.world.Equipped w (S.world.pool (S'.world.connection c).pool).config.interceptors
      (S'.world.connection c).chain

theorem Step.known_connection (h : Step S S') {c : ConnectionId}
    (hc : S'.world.connections.Known c) : S.world.connections.Known c ∨ Opened S S' c := by
  cases h with
  | book hw => exact Or.inl ((hw.known c).mp hc)
  | @hit _ _ _ _ binding _ _ _ _ _ _ _ _ =>
      rcases binding with ⟨d, _ | n⟩ <;> exact Or.inl ((World.known_setStore _ _ _ _).mp hc)
  | park _ _ _ _ _ _ _ => exact Or.inl ((World.known_setStore _ _ _ _).mp hc)
  | take _ _ _ _ => exact Or.inl ((World.known_setStore _ _ _ _).mp hc)
  | tally _ _ _ => exact Or.inl ((World.known_setStore _ _ _ _).mp hc)
  | drain _ _ => exact Or.inl ((World.known_setStore _ _ _ _).mp hc)
  | @repay n _ _ => cases n <;> exact Or.inl hc
  | hangUp _ _ => exact Or.inl ((Registry.known_modify _ _ _ _).mp hc)
  | @connect p w chain metadata hp hw =>
      rcases (Registry.known_register _ _ _).mp hc with hc | rfl
      · exact Or.inl hc
      · have hconn : ∀ connection, (S.world.connections.register connection).get
            S.world.connections.next = connection := Registry.get_register_next _
        refine Or.inr ⟨?_, ⟨?_, ?_⟩, ?_, w, rfl, ?_⟩
        · show ¬ S.world.driver.connections.Known ((S.world.connections.register _).get _).physical
          rw [hconn]
          exact Registry.not_known_next _
        · show ((S.world.connections.register _).get _).closed = false
          rw [hconn]
        · show ((S.world.driver.connections.register _).get
            ((S.world.connections.register _).get _).physical).closed = false
          rw [hconn, Registry.get_register_next]
        · show (S.world.pool ((S.world.connections.register _).get _).pool).closed = false
          rw [hconn]
          exact hp
        · show S.world.Equipped w (S.world.pool
            ((S.world.connections.register _).get _).pool).config.interceptors
            ((S.world.connections.register _).get _).chain
          rw [hconn]
          exact hw
  | _ => exact Or.inl hc

theorem Turn.known_connection (h : Turn S S') {c : ConnectionId}
    (hc : S'.world.connections.Known c) : S.world.connections.Known c ∨ Opened S S' c := by
  cases h with
  | step h => exact h.known_connection hc
  | @count p _ hn _ =>
      rw [S.world.startCounting_of_none hn] at hc
      exact Or.inl hc
  | _ => exact Or.inl hc

theorem OwnTurn.known_connection {Fits : CachePolicy → Prop} (h : OwnTurn Fits S S')
    {c : ConnectionId} (hc : S'.world.connections.Known c) :
    S.world.connections.Known c ∨ Opened S S' c := by
  cases h with
  | turn h => exact h.known_connection hc
  | offer _ _ _ _ _ => exact Or.inl ((World.known_setStore _ _ _ _).mp hc)
  | _ => exact Or.inl hc

end Scene

end ConnectionPool
