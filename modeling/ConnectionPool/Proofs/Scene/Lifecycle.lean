import ConnectionPool.Pool.Checkout
import ConnectionPool.Proofs.Scene.Calling

/-!
# The life of connections and pools, step by step

Attaching caches at a checkout, draining them before a connection is closed, opening and
tearing down connections, starting and closing pools: each is a sequence of steps of a scene
(`steps_teardown`, `steps_checkOut`), or of turns where a pool starts or closes
(`turns_startPool`, `turns_shutDown`).

A connection that comes out of a checkout is `Ready` to be torn down: its caches are attached
to it. It stays so, which is why draining it later gives every slot back to its counter.
-/

set_option autoImplicit false

namespace ConnectionPool

namespace World

/-! ## The books -/

theorem sameCaching_updatePool (w : World) (p : PoolId) (f : Pool → Pool)
    (hb : ∀ pool, (f pool).body = pool.body)
    (hi : ∀ c ∈ (f (w.pool p)).idle, c ∈ (w.pool p).idle
      ∨ (w.connections.Known c ∧ (w.connection c).pool = p ∧ w.Ready c)) :
    w.SameCaching (w.updatePool p f) :=
  { w.sameCaching_refl with
    pools_size := Registry.size_modify _ _ _
    pool := w.pool_updatePool_congr p f Pool.body hb
    idle := by
      intro q c hc
      rw [pool_updatePool] at hc
      split at hc
      · next h =>
          obtain ⟨rfl, -⟩ := h
          exact hi c hc
      · exact Or.inl hc }

theorem sameCaching_updateMetadata (w : World) (c : ConnectionId) (f : Metadata → Metadata) :
    w.SameCaching (w.updateMetadata c f) :=
  { w.sameCaching_refl with
    connections_size := Registry.size_modify _ _ _
    connection := w.connection_updateConnection_congr c
      (fun connection => { connection with metadata := f connection.metadata }) Connection.body
      fun _ => rfl }

theorem isSome_store?_provideStore {w : World} {c : ConnectionId}
    (h : w.connections.Known c) : (((w.provideStore c).connection c).store?).isSome = true := by
  unfold provideStore
  split
  · next h => rw [h]; rfl
  · exact isSome_store?_setStore_self h _

theorem pool_provideStore (w : World) (c : ConnectionId) (p : PoolId) :
    (w.provideStore c).pool p = w.pool p := by
  unfold provideStore
  split <;> rfl

/-- Only caches act on hooks. -/
theorem react_of_no_cache {p : PoolId} {interceptor : Interceptor} {hook : Hook} {w : World}
    (h : interceptor.cache? = none) : react p interceptor hook w = w := by
  obtain ⟨name, role⟩ := interceptor
  cases role with
  | cache k => exact nomatch h
  | _ => rfl

end World

theorem Store.facades_eq (store : Store) :
    store.facades = (store.parked.map Tracked.facade : List Statement) := by
  rw [parked, List.map_map]
  rfl

theorem Store.length_parked (store : Store) : store.parked.length = store.size := by
  rw [parked, List.length_map]
  rfl

namespace Scene

variable {S S' : Scene}

/-! ## Folds -/

/-- Folding operations that are sequences of steps is a sequence of steps. -/
theorem steps_foldl {α : Type} {f : World → α → World} {I : Scene → Prop}
    (hinv : ∀ {S S' : Scene}, Steps S S' → I S → I S') (l : List α)
    (hf : ∀ a ∈ l, ∀ S : Scene, I S → Steps S (S.inWorld (f S.world a))) :
    ∀ S : Scene, I S → Steps S (S.inWorld (l.foldl f S.world)) := by
  induction l with
  | nil => exact fun _ _ => .refl
  | cons a l ih =>
      intro S hS
      have ha := hf a List.mem_cons_self S hS
      exact ha.trans (ih (fun b hb => hf b (List.mem_cons_of_mem a hb))
        (S.inWorld (f S.world a)) (hinv ha hS))

/-- **A connection that can be torn down**, in a scene that is wired. -/
structure Tidy (c : ConnectionId) (S : Scene) : Prop where
  wired : S.Wired
  known : S.world.connections.Known c
  ready : S.world.Ready c

theorem Tidy.steps {c : ConnectionId} (h : Steps S S') (hS : Tidy c S) : Tidy c S' := by
  obtain ⟨hl, hw⟩ := h.later_and_wired hS.wired
  exact ⟨hw, (hl.connections c hS.known).1, hl.ready c hS.known hS.ready⟩

theorem Steps.pool_body (h : Steps S S') (p : PoolId) :
    (S'.world.pool p).body = (S.world.pool p).body := by
  induction h with
  | refl => rfl
  | tail _ hstep ih => exact (hstep.pool_body p).trans ih

theorem Steps.pool_closed (h : Steps S S') (p : PoolId) :
    (S'.world.pool p).closed = (S.world.pool p).closed :=
  show (S'.world.pool p).body.closed = (S.world.pool p).body.closed from
    congrArg Pool.closed (h.pool_body p)

/-! ## Attaching and draining -/

theorem steps_provideStore (S : Scene) (c : ConnectionId) :
    Steps S (S.inWorld (S.world.provideStore c)) := by
  unfold World.provideStore
  split
  · exact .refl
  · next h =>
      have hs : S.world.store c = default := by rw [World.store, h]; rfl
      exact .single (.tally c (by rw [hs]; rfl) (by rw [hs]; rfl))

/-- Attaching a cache to a connection of an open pool: the connection gets a store, and then the
cache is bound to it. -/
theorem step_attach {c : ConnectionId} {k : CacheId} {p : PoolId} (hS : S.Wired)
    (hc : S.world.connections.Known c) (hp : (S.world.connection c).pool = p)
    (hk : k ∈ (S.world.connection c).caches ∨ k ∈ S.own)
    (ho : (S.world.pool p).closed = false) :
    Step (S.inWorld (S.world.provideStore c)) (S.inWorld (S.world.attach k p c))
      ∧ S.world.attach k p c = (S.world.provideStore c).updateCache k fun cache =>
        { cache with binding := some ⟨c, (S.world.pool p).counter?⟩ } := by
  obtain ⟨hl, hS₁⟩ := (steps_provideStore S c).later_and_wired hS
  have hf := (hl.connections c hc).2
  have hpool : ((S.world.provideStore c).connection c).pool = p :=
    (Connection.pool_of_frame hf).trans hp
  have hattach := Step.attach (S := S.inWorld (S.world.provideStore c)) (c := c) (k := k)
    (by rw [Connection.caches_of_frame hf]; exact hk)
    (by
      show ((S.world.provideStore c).pool ((S.world.provideStore c).connection c).pool).closed
        = false
      rw [hpool, World.pool_provideStore]
      exact ho)
    (World.isSome_store?_provideStore hc)
  have hworld : ((S.world.provideStore c).pool
      ((S.world.provideStore c).connection c).pool).counter? = (S.world.pool p).counter? := by
    rw [hpool, World.pool_provideStore]
  have heq : S.world.attach k p c = (S.world.provideStore c).updateCache k fun cache =>
      { cache with binding := some ⟨c, (S.world.pool p).counter?⟩ } := by
    have hwired := (hattach.later_and_wired hS₁).2
    rw [show (S.inWorld (S.world.provideStore c)).world = S.world.provideStore c from rfl,
      hworld] at hwired
    exact hwired.rebind_eq
  refine ⟨?_, heq⟩
  rw [heq, ← hworld]
  exact hattach

theorem steps_attach {c : ConnectionId} {k : CacheId} {p : PoolId} (hS : S.Wired)
    (hc : S.world.connections.Known c) (hp : (S.world.connection c).pool = p)
    (hk : k ∈ (S.world.connection c).caches ∨ k ∈ S.own)
    (ho : (S.world.pool p).closed = false) :
    Steps S (S.inWorld (S.world.attach k p c)) :=
  (steps_provideStore S c).tail (step_attach hS hc hp hk ho).1

/-- Detaching a cache of a client, or one of a connection with a drained store. -/
theorem step_detach {k : CacheId} (hS : S.Wired)
    (hk : k ∈ S.own ∨ ∃ c, k ∈ (S.world.connection c).caches
      ∧ (S.world.store c).closed = true) :
    Step S (S.inWorld (S.world.detach k))
      ∧ S.world.detach k = S.world.updateCache k fun cache => { cache with binding := none } := by
  have hdetach := Step.detach hk
  have heq : S.world.detach k
      = S.world.updateCache k fun cache => { cache with binding := none } :=
    World.Wired.rebind_eq (hdetach.later_and_wired hS).2
  refine ⟨?_, heq⟩
  rw [heq]
  exact hdetach

/-- Giving slots back and closing statements, one after the other. -/
theorem steps_discharge (n : Option CounterId) (l : List Tracked) :
    ∀ (S : Scene) (H : Multiset Statement) (O : Multiset (Option CounterId)),
      S.hands = ↑(l.map Tracked.facade) + H → S.owed = Multiset.replicate l.length n + O →
      Steps S { S with
        world := l.foldl (World.discharge n) S.world, hands := H, owed := O } := by
  induction l with
  | nil =>
      rintro ⟨w, hands, loose, owed, lines, own⟩ H O rfl rfl
      rw [show ((↑(List.map Tracked.facade []) : Multiset Statement) + H) = H from
        Multiset.zero_add H]
      rw [show Multiset.replicate ([] : List Tracked).length n + O = O from Multiset.zero_add O]
      exact .refl
  | cons tracked l ih =>
      intro S H O hH hO
      have hH' : S.hands = tracked.facade ::ₘ (↑(l.map Tracked.facade) + H) := by
        rw [hH, List.map_cons, ← Multiset.cons_coe, Multiset.cons_add]
      have hO' : S.owed = n ::ₘ (Multiset.replicate l.length n + O) := by
        rw [hO, List.length_cons, Multiset.replicate_succ, Multiset.cons_add]
      have hrepay : Step S { S with
          world := S.world.releaseSlot n, owed := Multiset.replicate l.length n + O } :=
        .repay hO'
      refine (Relation.ReflTransGen.single hrepay).trans ?_
      refine (steps_dropTracked (S := { S with
          world := S.world.releaseSlot n, owed := Multiset.replicate l.length n + O })
        tracked hH').trans ?_
      exact ih { S with
        world := World.discharge n S.world tracked, hands := ↑(l.map Tracked.facade) + H
        owed := Multiset.replicate l.length n + O } H O rfl rfl

/-- Draining the store of a connection that can be torn down. -/
theorem steps_drain {c : ConnectionId} {k : CacheId} {p : PoolId} (hS : Tidy c S)
    (hk : k ∈ (S.world.connection c).caches) (hp : (S.world.connection c).pool = p) :
    Steps S (S.inWorld (S.world.drain k p c))
      ∧ ((S.world.drain k p c).store c).closed = true := by
  unfold World.drain
  split
  · next hstore =>
      refine ⟨.refl, ?_⟩
      rcases hS.ready with hr | hd
      · obtain ⟨n, hb⟩ := hr k hk
        have hs := (hS.wired.bound hb).1
        rw [hstore] at hs
        exact nomatch hs
      · exact hd
  · next store hstore =>
      have hs : S.world.store c = store := by rw [World.store, hstore]; rfl
      have hb : (∃ n, (S.world.cache k).binding = some ⟨c, n⟩)
          ∨ (S.world.store c).closed = true := hS.ready.imp_left fun h => h k hk
      have hdrain := Step.drain hk hb
      rw [hs, hp, store.facades_eq, ← store.length_parked] at hdrain
      have hrest := steps_discharge _ store.parked { S with
          world := S.world.setStore c store.drained
          hands := ↑(store.parked.map Tracked.facade) + S.hands
          owed := Multiset.replicate store.parked.length (S.world.countedBy k p) + S.owed }
        S.hands S.owed rfl rfl
      refine ⟨(Relation.ReflTransGen.single hdrain).trans hrest, ?_⟩
      have hw := (hdrain.later_and_wired hS.wired).2
      refine (hrest.later_and_wired hw).1.drained c ?_
      show ((S.world.setStore c store.drained).store c).closed = true
      rw [S.world.store_setStore_self hS.known]
      rfl

/-! ## Telling a chain -/

section Telling

variable {c : ConnectionId} {hook : Hook} {Inv : Scene → Prop}

/-- One delivery to a link, where what a cache does is a sequence of steps. -/
theorem steps_deliver (hinv : ∀ {S S' : Scene}, Steps S S' → Inv S → Inv S') (hS : Inv S)
    (p : PoolId) (receiver : Receiver) (interceptor : Interceptor)
    (hf : ∀ k, interceptor.cache? = some k → ∀ S' : Scene, Inv S' →
      Steps S' (S'.inWorld (World.react p interceptor hook S'.world))) :
    Steps S (S.inWorld (World.deliver p hook receiver interceptor S.world)) := by
  have hnote : Step S (S.inWorld (S.world.note receiver interceptor
      (.hook hook (S.world.sight p hook.connection?)))) :=
    steps_note S receiver interceptor (by rintro _ _ ⟨⟩)
  cases hk : interceptor.cache? with
  | some k =>
      exact (Relation.ReflTransGen.single hnote).trans
        (hf k hk _ (hinv (.single hnote) hS))
  | none =>
      rw [World.deliver, World.react_of_no_cache hk]
      exact .single hnote

/-- What is delivered to the chain of a connection, where what a cache does is a sequence of
steps. -/
theorem steps_tellChain (hinv : ∀ {S S' : Scene}, Steps S S' → Inv S → Inv S') (hS : Inv S)
    (hf : ∀ interceptor ∈ (S.world.connection c).chain, ∀ k, interceptor.cache? = some k →
      ∀ S' : Scene, Inv S' → Steps S'
        (S'.inWorld (World.react (S.world.connection c).pool interceptor hook S'.world))) :
    Steps S (S.inWorld (S.world.tellChain c hook)) :=
  steps_foldl hinv _ (fun entry hentry _ hS' => steps_deliver hinv hS' _ _ entry.1
    (hf entry.1 (List.fst_mem_of_mem_zipIdx hentry))) S hS

/-- What a cache of a chain brings about when a hook is delivered, and no link undoes, holds
after the chain was told. -/
theorem holds_tellChain {Q : World → Prop}
    (hinv : ∀ {S S' : Scene}, Steps S S' → Inv S → Inv S') (hS : Inv S)
    (hf : ∀ interceptor ∈ (S.world.connection c).chain, ∀ k, interceptor.cache? = some k →
      ∀ S' : Scene, Inv S' → Steps S'
        (S'.inWorld (World.react (S.world.connection c).pool interceptor hook S'.world)))
    (hkeep : ∀ interceptor ∈ (S.world.connection c).chain, ∀ receiver, ∀ S' : Scene, Inv S' →
      Q S'.world →
      Q (World.deliver (S.world.connection c).pool hook receiver interceptor S'.world))
    {interceptor : Interceptor} (hi : interceptor ∈ (S.world.connection c).chain)
    (hdo : ∀ receiver, ∀ S' : Scene, Inv S' →
      Q (World.deliver (S.world.connection c).pool hook receiver interceptor S'.world)) :
    Q (S.world.tellChain c hook) := by
  obtain ⟨position, hp⟩ := List.mem_iff_getElem?.mp hi
  have hentry : (interceptor, position) ∈ (S.world.connection c).chain.zipIdx :=
    List.mem_zipIdx_iff_getElem?.mpr hp
  -- once it holds it goes on to hold
  have hrest : ∀ l : List (Interceptor × Nat), (∀ e ∈ l, e.1 ∈ (S.world.connection c).chain) →
      ∀ S' : Scene, Inv S' → (Q S'.world ∨ (interceptor, position) ∈ l) →
      Q (l.foldl (fun w entry => World.deliver (S.world.connection c).pool hook
        (Receiver.link c entry.2) entry.1 w) S'.world) := by
    intro l
    induction l with
    | nil => exact fun _ S' _ hQ => hQ.resolve_right List.not_mem_nil
    | cons e l ih =>
        intro hl S' hS' hQ
        have hsteps := steps_deliver hinv hS' (S.world.connection c).pool
          (Receiver.link c e.2) e.1 (hf e.1 (hl e List.mem_cons_self))
        refine ih (fun e' he' => hl e' (List.mem_cons_of_mem e he')) _ (hinv hsteps hS') ?_
        rcases hQ with hQ | hQ
        · exact Or.inl (hkeep e.1 (hl e List.mem_cons_self) _ S' hS' hQ)
        · rcases List.mem_cons.mp hQ with rfl | hQ
          · exact Or.inl (hdo _ S' hS')
          · exact Or.inr hQ
  exact hrest _ (fun e he => List.fst_mem_of_mem_zipIdx he) S hS (Or.inr hentry)

end Telling

theorem mem_caches_of_chain {w : World} {c : ConnectionId} {interceptor : Interceptor}
    {k : CacheId} (h : interceptor ∈ (w.connection c).chain) (hk : interceptor.cache? = some k) :
    k ∈ (w.connection c).caches :=
  List.mem_filterMap.mpr ⟨interceptor, h, hk⟩

/-- A later scene in which a connection can be torn down. -/
structure TidyAfter (S₀ : Scene) (c : ConnectionId) (S : Scene) : Prop extends Tidy c S where
  later : S₀.world.Later S.world

theorem TidyAfter.steps {S₀ : Scene} {c : ConnectionId} (h : Steps S S')
    (hS : TidyAfter S₀ c S) : TidyAfter S₀ c S' :=
  ⟨hS.toTidy.steps h, hS.later.trans (h.later_and_wired hS.wired).1⟩

theorem TidyAfter.refl {c : ConnectionId} (hS : Tidy c S) : TidyAfter S c S :=
  ⟨hS, .refl _⟩

/-! ## Tearing down -/

section Teardown

variable {c : ConnectionId}

theorem steps_react_disconnected (hS : Tidy c S) (finalizing : Bool) {S' : Scene}
    (hS' : TidyAfter S c S') {interceptor : Interceptor} {k : CacheId}
    (hi : interceptor ∈ (S.world.connection c).chain) (hk : interceptor.cache? = some k) :
    Steps S' (S'.inWorld (World.react (S.world.connection c).pool interceptor
        (.disconnected c finalizing) S'.world))
      ∧ ((World.react (S.world.connection c).pool interceptor
        (.disconnected c finalizing) S'.world).store c).closed = true := by
  have hf := (hS'.later.connections c hS.known).2
  have hreact : World.react (S.world.connection c).pool interceptor (.disconnected c finalizing)
      S'.world = S'.world.drain k (S.world.connection c).pool c := by
    simp only [World.react, Interceptor.role_of_cache hk]
  rw [hreact]
  exact steps_drain hS'.toTidy
    (by rw [Connection.caches_of_frame hf]; exact mem_caches_of_chain hi hk)
    (Connection.pool_of_frame hf)

/-- The chain is told that the connection is about to be closed, and its caches drain the
store. -/
theorem steps_tellDisconnected (hS : Tidy c S) (finalizing : Bool) :
    Steps S (S.inWorld (S.world.tellChain c (.disconnected c finalizing))) :=
  steps_tellChain TidyAfter.steps (TidyAfter.refl hS) fun _ hi _ hk _ hS' =>
    (steps_react_disconnected hS finalizing hS' hi hk).1

/-- After the chain was told, the store is drained, if there are caches. -/
theorem drained_of_tellDisconnected (hS : Tidy c S) (finalizing : Bool) :
    (S.world.connection c).caches = []
      ∨ ((S.world.tellChain c (.disconnected c finalizing)).store c).closed = true := by
  rcases List.eq_nil_or_concat (S.world.connection c).caches with h | ⟨_, k, h⟩
  · exact Or.inl h
  · right
    obtain ⟨interceptor, hi, hk⟩ := List.mem_filterMap.mp
      (show k ∈ (S.world.connection c).caches by rw [h]; simp)
    refine holds_tellChain (Q := fun w => (w.store c).closed = true) TidyAfter.steps
      (TidyAfter.refl hS)
      (fun _ hi _ hk _ hS' => (steps_react_disconnected hS finalizing hS' hi hk).1)
      (fun link hlink receiver S' hS' hd => ?_) hi fun receiver S' hS' => ?_
    · have hsteps : Steps S' (S'.inWorld (World.deliver (S.world.connection c).pool
          (.disconnected c finalizing) receiver link S'.world)) :=
        steps_deliver TidyAfter.steps hS' (S.world.connection c).pool receiver link
          fun _ hk _ hS' => (steps_react_disconnected hS finalizing hS' hlink hk).1
      exact (hsteps.later_and_wired hS'.wired).1.drained c hd
    · have hnote : Step S' (S'.inWorld (S'.world.note receiver interceptor (.hook
          (.disconnected c finalizing) (S'.world.sight (S.world.connection c).pool (some c))))) :=
        steps_note S' receiver interceptor (by rintro _ _ ⟨⟩)
      exact (steps_react_disconnected hS finalizing (hS'.steps (.single hnote)) hi hk).2

theorem step_react_detached (hS : Tidy c S)
    (hd : (S.world.connection c).caches = [] ∨ (S.world.store c).closed = true) {S' : Scene}
    (hS' : TidyAfter S c S') {interceptor : Interceptor} {k : CacheId}
    (hi : interceptor ∈ (S.world.connection c).chain) (hk : interceptor.cache? = some k) :
    Step S' (S'.inWorld (World.react (S.world.connection c).pool interceptor (.detached c)
        S'.world))
      ∧ World.react (S.world.connection c).pool interceptor (.detached c) S'.world
        = S'.world.updateCache k fun cache => { cache with binding := none } := by
  have hmem := mem_caches_of_chain hi hk
  have hreact : World.react (S.world.connection c).pool interceptor (.detached c) S'.world
      = S'.world.detach k := by
    simp only [World.react, Interceptor.role_of_cache hk]
  rw [hreact]
  rcases hd with hd | hd
  · rw [hd] at hmem
    exact nomatch hmem
  · refine step_detach hS'.wired (Or.inr ⟨c, ?_, hS'.later.drained c hd⟩)
    rw [Connection.caches_of_frame (hS'.later.connections c hS.known).2]
    exact hmem

/-- The chain is told that the connection was closed, and its caches are detached. -/
theorem steps_tellDetached (hS : Tidy c S)
    (hd : (S.world.connection c).caches = [] ∨ (S.world.store c).closed = true) :
    Steps S (S.inWorld (S.world.tellChain c (.detached c))) :=
  steps_tellChain TidyAfter.steps (TidyAfter.refl hS) fun _ hi _ hk _ hS' =>
    .single (step_react_detached hS hd hS' hi hk).1

theorem steps_hangUp (hS : Tidy c S)
    (hd : (S.world.connection c).caches = [] ∨ (S.world.store c).closed = true) :
    Steps S (S.inWorld (S.world.hangUp c)) := by
  unfold World.hangUp
  split
  · exact .refl
  · exact .single (.hangUp hS.known hd)

theorem drained_of_later {S' : Scene} (hc : S.world.connections.Known c)
    (h : S.world.Later S'.world)
    (hd : (S.world.connection c).caches = [] ∨ (S.world.store c).closed = true) :
    (S'.world.connection c).caches = [] ∨ (S'.world.store c).closed = true :=
  hd.imp (Connection.caches_of_frame (h.connections c hc).2).trans (h.drained c)

/-- **Tearing a connection down.** -/
theorem steps_teardown (hS : Tidy c S) (finalizing : Bool) :
    Steps S (S.inWorld (World.teardown finalizing S.world c)) := by
  have hclosing : Steps S
      (S.inWorld (S.world.updateMetadata c fun metadata => metadata.enter .closing)) :=
    .single (.book (S.world.sameCaching_updateMetadata c _))
  have hS₁ := hS.steps hclosing
  have htell := steps_tellDisconnected hS₁ finalizing
  have hS₂ := hS₁.steps htell
  have hd₂ := (drained_of_tellDisconnected hS₁ finalizing).imp_left
    (Connection.caches_of_frame
      ((htell.later_and_wired hS₁.wired).1.connections c hS₁.known).2).trans
  have hhang := steps_hangUp hS₂ hd₂
  have hS₃ := hS₂.steps hhang
  have hd₃ := drained_of_later hS₂.known (hhang.later_and_wired hS₂.wired).1 hd₂
  have hdetach := steps_tellDetached hS₃ hd₃
  exact ((hclosing.trans htell).trans hhang).trans (hdetach.tail (.book
    (World.sameCaching_updateMetadata _ c fun metadata => metadata.enter .closed)))

end Teardown

end Scene

end ConnectionPool
