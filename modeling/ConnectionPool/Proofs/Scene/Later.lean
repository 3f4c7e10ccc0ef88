import ConnectionPool.Proofs.Scene.Basic

/-!
# What lasts

Connections keep their pool, their driver's connection and their chain, caches keep their
policies, statements keep their origins and stay closed, drained stores stay drained, and the
journal only grows. `World.Later` collects this for two worlds, and `Scene.Step.later` and
`Scene.OwnTurn.later` prove it of what a scene can do.

A connection that can be torn down without losing a slot stays so. This needs that no cache
is wired to two connections, which is part of `Scene.Wired`.
-/

set_option autoImplicit false

namespace ConnectionPool

/-! ## Frames -/

theorem Connection.pool_of_frame {a b : Connection} (h : a.frame = b.frame) : a.pool = b.pool :=
  congrArg Prod.fst h

theorem Connection.physical_of_frame {a b : Connection} (h : a.frame = b.frame) :
    a.physical = b.physical :=
  congrArg (·.2.1) h

theorem Connection.chain_of_frame {a b : Connection} (h : a.frame = b.frame) :
    a.chain = b.chain :=
  congrArg (·.2.2) h

theorem Connection.caches_of_frame {a b : Connection} (h : a.frame = b.frame) :
    a.caches = b.caches :=
  congrArg (List.filterMap Interceptor.cache?) (chain_of_frame h)

theorem Connection.cacheAt?_of_frame {a b : Connection} (h : a.frame = b.frame) (n : Nat) :
    a.cacheAt? n = b.cacheAt? n := by
  rw [cacheAt?, chain_of_frame h, ← cacheAt?]

theorem Connection.frame_of_body {a b : Connection} (h : a.body = b.body) : a.frame = b.frame :=
  show a.body.frame = b.body.frame from congrArg frame h

namespace World

@[simp] theorem frame_setStore (w : World) (c : ConnectionId) (store : Store)
    (d : ConnectionId) : ((w.setStore c store).connection d).frame = (w.connection d).frame :=
  w.connection_updateConnection_congr c
    (fun connection =>
      { connection with attributes := connection.attributes.insert .store store })
    Connection.frame (fun _ => rfl) d

@[simp] theorem known_setStore (w : World) (c : ConnectionId) (store : Store)
    (d : ConnectionId) : (w.setStore c store).connections.Known d ↔ w.connections.Known d :=
  Registry.known_modify _ _ _ _

theorem SameCaching.frame {w w' : World} (h : w.SameCaching w') (c : ConnectionId) :
    (w'.connection c).frame = (w.connection c).frame :=
  Connection.frame_of_body (h.connection c)

theorem SameCaching.store? {w w' : World} (h : w.SameCaching w') (c : ConnectionId) :
    (w'.connection c).store? = (w.connection c).store? :=
  show (w'.connection c).body.store? = (w.connection c).body.store? from
    congrArg Connection.store? (h.connection c)

theorem SameCaching.store {w w' : World} (h : w.SameCaching w') (c : ConnectionId) :
    w'.store c = w.store c :=
  congrArg (Option.getD · default) (h.store? c)

theorem SameCaching.closed {w w' : World} (h : w.SameCaching w') (c : ConnectionId) :
    (w'.connection c).closed = (w.connection c).closed :=
  show (w'.connection c).body.closed = (w.connection c).body.closed from
    congrArg Connection.closed (h.connection c)

theorem SameCaching.config {w w' : World} (h : w.SameCaching w') (p : PoolId) :
    (w'.pool p).config = (w.pool p).config :=
  show (w'.pool p).body.config = (w.pool p).body.config from congrArg Pool.config (h.pool p)

theorem SameCaching.counter? {w w' : World} (h : w.SameCaching w') (p : PoolId) :
    (w'.pool p).counter? = (w.pool p).counter? :=
  show (w'.pool p).body.counter? = (w.pool p).body.counter? from
    congrArg Pool.counter? (h.pool p)

theorem SameCaching.known {w w' : World} (h : w.SameCaching w') (c : ConnectionId) :
    w'.connections.Known c ↔ w.connections.Known c :=
  Registry.known_congr h.connections_size c

theorem SameCaching.known_pool {w w' : World} (h : w.SameCaching w') (p : PoolId) :
    w'.pools.Known p ↔ w.pools.Known p :=
  Registry.known_congr h.pools_size p

theorem SameCaching.cache {w w' : World} (h : w.SameCaching w') (k : CacheId) :
    w'.cache k = w.cache k :=
  congrArg (Registry.get · k) h.caches

theorem SameCaching.statement {w w' : World} (h : w.SameCaching w') (id : StatementId) :
    w'.driver.statement id = w.driver.statement id :=
  congrArg (Registry.get · id) h.statements

theorem Ready.congr {w w' : World} {c : ConnectionId} (h : w.Ready c)
    (hf : (w'.connection c).frame = (w.connection c).frame)
    (hb : ∀ k ∈ (w.connection c).caches, (w'.cache k).binding = (w.cache k).binding)
    (hs : (w.store c).closed = true → (w'.store c).closed = true) : w'.Ready c := by
  rcases h with h | h
  · left
    intro k hk
    rw [Connection.caches_of_frame hf] at hk
    rw [hb k hk]
    exact h k hk
  · exact Or.inr (hs h)

/-! ## Lasting -/

/-- **A later world.** -/
structure Later (w w' : World) : Prop where
  connections : ∀ c, w.connections.Known c →
    w'.connections.Known c ∧ (w'.connection c).frame = (w.connection c).frame
  stored : ∀ c, ((w.connection c).store?).isSome = true →
    ((w'.connection c).store?).isSome = true
  drained : ∀ c, (w.store c).closed = true → (w'.store c).closed = true
  ready : ∀ c, w.connections.Known c → w.Ready c → w'.Ready c
  caches : ∀ k, w.caches.Known k → w'.caches.Known k ∧ (w'.cache k).policy = (w.cache k).policy
  statements : ∀ id, w.driver.statements.Known id → w'.driver.statements.Known id
    ∧ (w'.driver.statement id).origin = (w.driver.statement id).origin
    ∧ ((w.driver.statement id).closed = true → (w'.driver.statement id).closed = true)
  journal : ∃ notices : Journal, w'.journal = w.journal ++ notices
  pools : ∀ p, w.pools.Known p → w'.pools.Known p

namespace Later

theorem refl (w : World) : w.Later w where
  connections _ h := ⟨h, rfl⟩
  stored _ h := h
  drained _ h := h
  ready _ _ h := h
  caches _ h := ⟨h, rfl⟩
  statements _ h := ⟨h, rfl, id⟩
  journal := ⟨[], (List.append_nil _).symm⟩
  pools _ h := h

theorem trans {w₁ w₂ w₃ : World} (h : w₁.Later w₂) (h' : w₂.Later w₃) : w₁.Later w₃ where
  connections c hc :=
    have hc₂ := h.connections c hc
    have hc₃ := h'.connections c hc₂.1
    ⟨hc₃.1, hc₃.2.trans hc₂.2⟩
  stored c hc := h'.stored c (h.stored c hc)
  drained c hc := h'.drained c (h.drained c hc)
  ready c hc hr := h'.ready c (h.connections c hc).1 (h.ready c hc hr)
  caches k hk :=
    have hk₂ := h.caches k hk
    have hk₃ := h'.caches k hk₂.1
    ⟨hk₃.1, hk₃.2.trans hk₂.2⟩
  statements id hid :=
    have hid₂ := h.statements id hid
    have hid₃ := h'.statements id hid₂.1
    ⟨hid₃.1, hid₃.2.1.trans hid₂.2.1, fun hc => hid₃.2.2 (hid₂.2.2 hc)⟩
  journal := by
    obtain ⟨notices, hn⟩ := h.journal
    obtain ⟨notices', hn'⟩ := h'.journal
    exact ⟨notices ++ notices', by rw [hn', hn, List.append_assoc]⟩
  pools p hp := h'.pools p (h.pools p hp)

variable {w w' : World}

theorem left (h : w.Later w') {c : ConnectionId} {position : Nat} {call : Call}
    {handle : Statement} (hl : w.Left c position call handle) :
    w'.Left c position call handle := by
  obtain ⟨notices, hn⟩ := h.journal
  obtain ⟨notice, hm, hc⟩ := hl
  exact ⟨notice, by rw [hn]; exact List.mem_append_left _ hm, hc⟩

theorem entered (h : w.Later w') {c : ConnectionId} {position : Nat} {call : Call}
    (he : w.Entered c position call) : w'.Entered c position call := by
  obtain ⟨notices, hn⟩ := h.journal
  obtain ⟨notice, hm, hc⟩ := he
  exact ⟨notice, by rw [hn]; exact List.mem_append_left _ hm, hc⟩

theorem answered (h : w.Later w') {c : ConnectionId} {position : Nat} {call : Call}
    {handle : Statement} (hc : w.connections.Known c)
    (ha : w.Answered c position call handle) : w'.Answered c position call handle := by
  rcases ha with hl | ⟨hp, id, hid, ho⟩
  · exact Or.inl (h.left hl)
  · right
    have hf := (h.connections c hc).2
    have hk : w.driver.statements.Known id := by
      by_contra hk
      rw [Driver.statement_of_not_known _ hk] at ho
      exact nomatch ho
    refine ⟨by rw [Connection.chain_of_frame hf]; exact hp, id, hid, ?_⟩
    rw [(h.statements id hk).2.1, Connection.physical_of_frame hf]
    exact ho

end Later

/-! ## One thing written -/

variable {w : World}

theorem later_setStore {c : ConnectionId} {store : Store}
    (h : (w.store c).closed = true → store.closed = true) : w.Later (w.setStore c store) := by
  have hd : ∀ d, (w.store d).closed = true → ((w.setStore c store).store d).closed = true := by
    intro d hd
    rw [store_setStore]
    split
    · next hcd =>
        obtain ⟨rfl, -⟩ := hcd
        exact h hd
    · exact hd
  exact
    { Later.refl w with
      connections := fun d hk => ⟨(w.known_setStore c store d).mpr hk, w.frame_setStore c store d⟩
      stored := fun d hs => w.isSome_store?_setStore hs
      drained := hd
      ready := fun d _ hr => hr.congr (w.frame_setStore c store d) (fun _ _ => rfl) (hd d) }

theorem later_driver {driver : Driver}
    (h : ∀ id, w.driver.statements.Known id → driver.statements.Known id
      ∧ (driver.statement id).origin = (w.driver.statement id).origin
      ∧ ((w.driver.statement id).closed = true → (driver.statement id).closed = true)) :
    w.Later { w with driver } :=
  { Later.refl w with statements := h }

theorem later_note (receiver : Receiver) (interceptor : Interceptor) (content : NoticeContent) :
    w.Later (w.note receiver interceptor content) :=
  { Later.refl w with journal := ⟨_, rfl⟩ }

theorem later_updateCounter (n : CounterId) (f : Counter → Counter) :
    w.Later (w.updateCounter n f) :=
  { Later.refl w with pools := fun _ h => h }

theorem later_releaseSlot (n : Option CounterId) : w.Later (w.releaseSlot n) := by
  cases n with
  | none => exact Later.refl w
  | some n => exact later_updateCounter n _

theorem later_updatePool (p : PoolId) (f : Pool → Pool) : w.Later (w.updatePool p f) :=
  { Later.refl w with pools := fun _ h => (Registry.known_modify _ _ _ _).mpr h }

/-- The binding of a cache is changed to what leaves every connection ready that is. -/
theorem later_bind {k : CacheId} {binding : Option Binding}
    (h : ∀ c, k ∈ (w.connection c).caches →
      (w.store c).closed = true ∨ ∃ n, binding = some ⟨c, n⟩) :
    w.Later (w.updateCache k fun cache => { cache with binding }) :=
  { Later.refl w with
    caches := fun l hl => ⟨(Registry.known_modify _ _ _ _).mpr hl,
      w.cache_updateCache_congr k (fun cache => { cache with binding }) StatementCache.policy
        (fun _ => rfl) l⟩
    ready := by
      intro c _ hr
      rcases hr with hr | hr
      · by_cases hk : k ∈ (w.connection c).caches
        · rcases h c hk with hd | hb
          · exact Or.inr hd
          · left
            intro l hl
            rw [cache_updateCache]
            split
            · exact hb
            · exact hr l hl
        · left
          intro l hl
          rw [cache_updateCache, if_neg]
          · exact hr l hl
          · rintro ⟨rfl, -⟩
            exact hk hl
      · exact Or.inr hr }

theorem later_openConnection : w.Later { w with driver := w.driver.openConnection.1 } :=
  later_driver fun _ h => ⟨h, rfl, id⟩

theorem later_closeConnection (line : PhysicalConnectionId) :
    w.Later { w with driver := w.driver.closeConnection line } := by
  refine later_driver fun id h => ?_
  rw [Driver.statement, w.driver.statements_closeConnection, ← Driver.statement]
  exact ⟨h, rfl, fun hc => hc⟩

theorem later_closeStatement (id : StatementId) :
    w.Later { w with driver := (w.driver.closeStatement id).1 } := by
  refine later_driver fun other h => ⟨by simpa using h, by simp, fun hc => ?_⟩
  rw [Driver.closed_closeStatement, hc, Bool.or_true]

theorem later_issue (statement : PhysicalStatement) (event : StatementId → DriverEvent) :
    w.Later { w with driver := (w.driver.issue statement event).1 } := by
  refine later_driver fun id h => ?_
  rw [Driver.statement_issue_of_known _ _ _ h]
  exact ⟨(w.driver.known_issue _ _ _).mpr (Or.inl h), rfl, fun hc => hc⟩

theorem later_use (usage : Usage) (id : StatementId) :
    w.Later { w with driver := w.driver.use usage id } :=
  later_driver fun other h => ⟨by simpa using h, by simp, fun hc => by simpa using hc⟩

theorem later_setClosed (c : ConnectionId) :
    w.Later (w.updateConnection c fun connection => { connection with closed := true }) := by
  have hf : ∀ d, ((w.updateConnection c fun connection =>
      { connection with closed := true }).connection d).frame = (w.connection d).frame :=
    w.connection_updateConnection_congr c _ Connection.frame fun _ => rfl
  have hs : ∀ d, ((w.updateConnection c fun connection =>
      { connection with closed := true }).connection d).store? = (w.connection d).store? :=
    w.connection_updateConnection_congr c _ Connection.store? fun _ => rfl
  have hst : ∀ d, (w.updateConnection c fun connection =>
      { connection with closed := true }).store d = w.store d :=
    fun d => congrArg (Option.getD · default) (hs d)
  exact
    { Later.refl w with
      connections := fun d hk => ⟨(Registry.known_modify _ _ _ _).mpr hk, hf d⟩
      stored := fun d h => by rw [hs d]; exact h
      drained := fun d h => by rw [hst d]; exact h
      ready := fun d _ hr => hr.congr (hf d) (fun _ _ => rfl) fun h => by rw [hst d]; exact h }

theorem SameCaching.later {w' : World} (h : w.SameCaching w') : w.Later w' where
  connections c hc := ⟨(h.known c).mpr hc, h.frame c⟩
  stored c hc := by rw [h.store? c]; exact hc
  drained c hc := by rw [h.store c]; exact hc
  ready c _ hr := hr.congr (h.frame c) (fun k _ => by rw [h.cache k]) fun hc => by
    rw [h.store c]; exact hc
  caches k hk := ⟨by rw [h.caches]; exact hk, by rw [h.cache k]⟩
  statements id hid := ⟨by rw [h.statements]; exact hid, by rw [h.statement id], fun hc => by
    rw [h.statement id]; exact hc⟩
  journal := by
    obtain ⟨notices, hn, -⟩ := h.journal
    exact ⟨notices, hn⟩
  pools p hp := (h.known_pool p).mpr hp

end World

end ConnectionPool
