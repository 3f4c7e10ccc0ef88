import ConnectionPool.Proofs.Scene.Lifecycle

/-!
# The operations of a pool, step by step

Returning and retiring connections, sweeping, checking out, starting and closing a pool. A
checkout hands out a connection that can be torn down later (`tidy_checkOut`), so that
returning it may tear it down.
-/

set_option autoImplicit false

namespace ConnectionPool

namespace World

/-! ## Making interceptors -/

theorem Equipped.refl (w : World) : w.Equipped w [] [] where
  caches_known _ h := ⟨h, rfl⟩
  caches_new k h := by rw [cache, Registry.get_of_not_known h]; rfl
  nodup := List.nodup_nil
  chain_new _ h := nomatch h
  policy _ h := nomatch h
  caching h := by
    obtain ⟨_, hd, -⟩ := h
    exact absurd hd List.not_mem_nil

theorem newCache_known {w : World} (policy : CachePolicy) (fallible : Bool) {k : CacheId}
    (h : w.caches.Known k) : (w.newCache policy fallible).1.caches.Known k
      ∧ (w.newCache policy fallible).1.cache k = w.cache k :=
  ⟨(Registry.known_register _ _ _).mpr (Or.inl h), Registry.get_register_of_known _ h⟩

/-- A cache that is made for no chain. -/
theorem equipped_newCache (w : World) (policy : CachePolicy) (fallible : Bool) :
    w.Equipped (w.newCache policy fallible).1 [] [] :=
  { Equipped.refl w with
    caches_known := fun _ hk => newCache_known policy fallible hk
    caches_new := by
      intro k hk
      show ((w.caches.register { policy, fallible }).get k).binding = none
      rw [Registry.get_register]
      split
      · rfl
      · rw [Registry.get_of_not_known hk]
        rfl
    chain_new := fun _ hk => absurd hk List.not_mem_nil
    policy := fun _ hk => absurd hk List.not_mem_nil }

/-- An interceptor is made of what a definition says; only a cache is something new. -/
theorem makeInterceptor_cases (w : World) (definition : Definition) :
    ((∀ fallible, definition.role ≠ .cache fallible)
      ∧ (w.makeInterceptor definition).1 = w ∧ (w.makeInterceptor definition).2.cache? = none)
    ∨ ∃ fallible, definition.role = .cache fallible
      ∧ (w.makeInterceptor definition).1
        = (w.newCache (.ofProperties definition.properties) fallible).1
      ∧ (w.makeInterceptor definition).2.cache? = some w.caches.next := by
  obtain ⟨name, role, properties, refusals⟩ := definition
  cases role with
  | cache fallible => exact Or.inr ⟨fallible, rfl, rfl, rfl⟩
  | _ => exact Or.inl ⟨(fun _ h => nomatch h), rfl, rfl⟩

section Equipped

variable {w w' : World} {definition : Definition} {rest : List Definition}
  {interceptor : Interceptor} {chain : List Interceptor}

/-- A chain with one more interceptor, which is no cache. -/
theorem Equipped.plain (h : w.Equipped w' rest chain)
    (hrole : ∀ fallible, definition.role ≠ .cache fallible) (hk : interceptor.cache? = none) :
    w.Equipped w' (definition :: rest) (interceptor :: chain) := by
  have hf : (interceptor :: chain).filterMap Interceptor.cache?
      = chain.filterMap Interceptor.cache? := List.filterMap_cons_none hk
  exact
    { h with
      nodup := by rw [hf]; exact h.nodup
      chain_new := by rw [hf]; exact h.chain_new
      policy := by
        rw [hf]
        intro k hk
        obtain ⟨d, hd, hp⟩ := h.policy k hk
        exact ⟨d, List.mem_cons_of_mem _ hd, hp⟩
      caching := by
        rw [hf]
        rintro ⟨d, hd, fallible, hr⟩
        rcases List.mem_cons.mp hd with rfl | hd
        · exact absurd hr (hrole fallible)
        · exact h.caching ⟨d, hd, fallible, hr⟩ }

/-- A chain with one more cache, made before the rest of the chain. -/
theorem Equipped.cached {fallible : Bool}
    (h : (w.newCache (.ofProperties definition.properties) fallible).1.Equipped w' rest chain)
    (hrole : definition.role = .cache fallible)
    (hk : interceptor.cache? = some w.caches.next) :
    w.Equipped w' (definition :: rest) (interceptor :: chain) := by
  have hf : (interceptor :: chain).filterMap Interceptor.cache?
      = w.caches.next :: chain.filterMap Interceptor.cache? := List.filterMap_cons_some hk
  obtain ⟨v, hv⟩ : ∃ v, v = (w.newCache (.ofProperties definition.properties) fallible).1 :=
    ⟨_, rfl⟩
  have hcaches : v.caches = w.caches.register
      { policy := .ofProperties definition.properties, fallible } := by rw [hv]; rfl
  have hold : ∀ k, w.caches.Known k → v.caches.Known k ∧ v.cache k = w.cache k := by
    rw [hv]
    exact fun k hk => newCache_known _ _ hk
  rw [← hv] at h
  have hnext : v.caches.Known w.caches.next := by
    rw [hcaches]
    exact (Registry.known_register _ _ _).mpr (Or.inr rfl)
  have hmade : w'.cache w.caches.next
      = { policy := .ofProperties definition.properties, fallible } := by
    rw [(h.caches_known _ hnext).2, cache, hcaches, Registry.get_register_next]
  exact
    { caches_known := by
        intro k hk
        obtain ⟨hk₁, he₁⟩ := hold k hk
        obtain ⟨hk₂, he₂⟩ := h.caches_known k hk₁
        exact ⟨hk₂, he₂.trans he₁⟩
      caches_new := by
        intro k hk
        by_cases hkn : k = w.caches.next
        · rw [hkn, hmade]
        · refine h.caches_new k fun hkv => ?_
          rw [hcaches, Registry.known_register] at hkv
          exact hkv.elim hk hkn
      nodup := by
        rw [hf]
        exact List.nodup_cons.mpr ⟨fun hm => (h.chain_new _ hm).2 hnext, h.nodup⟩
      chain_new := by
        rw [hf]
        intro k hk
        rcases List.mem_cons.mp hk with rfl | hk
        · exact ⟨(h.caches_known _ hnext).1, w.caches.not_known_next⟩
        · obtain ⟨hk₁, hk₂⟩ := h.chain_new k hk
          exact ⟨hk₁, fun hkw => hk₂ (hold k hkw).1⟩
      policy := by
        rw [hf]
        intro k hk
        rcases List.mem_cons.mp hk with rfl | hk
        · exact ⟨definition, List.mem_cons_self, fallible, hrole, by rw [hmade]⟩
        · obtain ⟨d, hd, hp⟩ := h.policy k hk
          exact ⟨d, List.mem_cons_of_mem _ hd, hp⟩
      caching := by
        rw [hf]
        exact fun _ => List.cons_ne_nil _ _ }

end Equipped

theorem makeInterceptors_cons (w : World) (definition : Definition) (rest : List Definition) :
    w.makeInterceptors (definition :: rest)
      = (((w.makeInterceptor definition).1.makeInterceptors rest).1,
        (w.makeInterceptor definition).2
          :: ((w.makeInterceptor definition).1.makeInterceptors rest).2) := rfl

theorem equipped_makeInterceptors (definitions : List Definition) :
    ∀ w : World, w.Equipped (w.makeInterceptors definitions).1 definitions
      (w.makeInterceptors definitions).2 := by
  induction definitions with
  | nil => exact .refl
  | cons definition rest ih =>
      intro w
      rw [makeInterceptors_cons]
      rcases w.makeInterceptor_cases definition with ⟨hrole, h, hk⟩ | ⟨fallible, hrole, h, hk⟩ <;>
        rw [h]
      · exact (ih w).plain hrole hk
      · exact (ih _).cached hrole hk

/-- A caching definition makes a caching interceptor. -/
theorem exists_cache_of_makeInterceptors {definitions : List Definition}
    (h : ∃ definition ∈ definitions, ∃ fallible, definition.role = .cache fallible) (w : World) :
    ∃ interceptor ∈ (w.makeInterceptors definitions).2, interceptor.cache?.isSome = true := by
  have hcaches := (equipped_makeInterceptors definitions w).caching h
  obtain ⟨k, hk⟩ := List.exists_mem_of_ne_nil _ hcaches
  obtain ⟨interceptor, hi, hk⟩ := List.mem_filterMap.mp hk
  exact ⟨interceptor, hi, Option.isSome_iff_exists.mpr ⟨k, hk⟩⟩

/-- Only a caching definition makes a caching interceptor. -/
theorem caching_of_makeInterceptors {definitions : List Definition} {w : World}
    {interceptor : Interceptor} (hi : interceptor ∈ (w.makeInterceptors definitions).2)
    (hk : interceptor.cache?.isSome = true) :
    ∃ definition ∈ definitions, ∃ fallible, definition.role = .cache fallible := by
  obtain ⟨k, hk⟩ := Option.isSome_iff_exists.mp hk
  obtain ⟨definition, hd, fallible, hrole, -⟩ := (equipped_makeInterceptors definitions w).policy k
    (List.mem_filterMap.mpr ⟨interceptor, hi, hk⟩)
  exact ⟨definition, hd, fallible, hrole⟩

/-- Every definition makes an interceptor of its name, in order. -/
theorem names_makeInterceptors (definitions : List Definition) :
    ∀ w : World, (w.makeInterceptors definitions).2.map Interceptor.name
      = definitions.map Definition.instanceName := by
  induction definitions with
  | nil => exact fun _ => rfl
  | cons definition rest ih =>
      intro w
      have hname : (w.makeInterceptor definition).2.name = definition.instanceName := by
        obtain ⟨name, role, properties, refusals⟩ := definition
        cases role <;> rfl
      rw [makeInterceptors_cons, List.map_cons, hname, ih, List.map_cons]

theorem makeInterceptors_eq (definitions : List Definition) :
    ∀ w : World, (w.makeInterceptors definitions).1
      = { w with caches := (w.makeInterceptors definitions).1.caches } := by
  induction definitions with
  | nil => exact fun _ => rfl
  | cons definition rest ih =>
      intro w
      simp only [makeInterceptors_cons]
      rw [ih]
      rcases w.makeInterceptor_cases definition with ⟨-, h, -⟩ | ⟨fallible, -, h, -⟩ <;> rw [h]
      rfl

/-! ## Founding a pool -/

/-- **A pool is founded**: it is there, with the caches of its listeners, and nobody has been told
so. -/
def founded (w : World) (config : PoolConfig) (sources : List Source) : World :=
  { w with
    caches := (w.makeInterceptors config.interceptors).1.caches
    pools := w.pools.register
      { config, sources, listeners := (w.makeInterceptors config.interceptors).2 } }

section Founded

variable (w : World) (config : PoolConfig) (sources : List Source)

theorem pool_founded_next : (w.founded config sources).pool w.pools.next
    = { config, sources, listeners := (w.makeInterceptors config.interceptors).2 } :=
  Registry.get_register_next _ _

theorem pool_founded {p : PoolId} (hp : w.pools.Known p) :
    (w.founded config sources).pool p = w.pool p :=
  Registry.get_register_of_known _ hp

theorem pool_founded_of_ne {p : PoolId} (hp : w.pools.next ≠ p) :
    (w.founded config sources).pool p = w.pool p := by
  show (w.pools.register _).get p = w.pools.get p
  rw [Registry.get_register, if_neg hp.symm]

/-- A pool has waiting connections no sooner than it is founded, nor then. -/
theorem idle_founded (p : PoolId) : ((w.founded config sources).pool p).idle = (w.pool p).idle := by
  by_cases hp : w.pools.next = p
  · have hnone : w.pool w.pools.next = default := Registry.get_of_not_known w.pools.not_known_next
    rw [← hp, pool_founded_next, hnone]
    rfl
  · rw [w.pool_founded_of_ne config sources hp]

/-- **A pool that starts** is founded and tells its listeners so; one that does not start changes
nothing. -/
theorem startPool_cases : (∃ error, w.startPool config = (w, .error error))
    ∨ ∃ sources, w.startPool config
      = ((w.founded config sources).tellListeners w.pools.next .poolStarted, .ok w.pools.next) := by
  unfold startPool
  split
  · next error _ => exact Or.inl ⟨error, rfl⟩
  · split
    · next error _ => exact Or.inl ⟨error, rfl⟩
    · next sources _ =>
        refine Or.inr ⟨sources, ?_⟩
        rw [founded]
        simp only
        rw [w.makeInterceptors_eq]

end Founded

theorem caches_provideStore (w : World) (c : ConnectionId) :
    (w.provideStore c).caches = w.caches := by
  unfold provideStore
  split <;> rfl

theorem sameCaching_freeSlot (w : World) (p : PoolId) : w.SameCaching (w.freeSlot p) :=
  w.sameCaching_updatePool p
    (fun pool => { pool with total := pool.total - 1, inUse := pool.inUse - 1 })
    (fun _ => rfl) fun _ hc => Or.inl hc

/-- A change of the driver's faults. -/
theorem sameCaching_faults (w : World) (faults : Faults) :
    w.SameCaching { w with driver := { w.driver with faults } } :=
  { w.sameCaching_refl with
    journal := ⟨[], (List.append_nil _).symm, fun _ h => nomatch h⟩ }

/-- Connecting fails, which uses up a fault, or opens a connection of the driver. -/
theorem connect_cases (w : World) :
    (∃ due, w.driver.faults.connect = due + 1 ∧ w.onDriver Driver.connect
      = ({ w with driver := { w.driver with faults := { w.driver.faults with connect := due } } },
        .error Driver.loginFailed))
    ∨ (w.driver.faults.connect = 0 ∧ w.onDriver Driver.connect
      = ({ w with driver := w.driver.openConnection.1 }, .ok w.driver.connections.next)) := by
  unfold onDriver Driver.connect
  cases w.driver.faults.connect with
  | zero => exact Or.inr ⟨rfl, rfl⟩
  | succ due => exact Or.inl ⟨due, rfl, rfl⟩

/-- Opening a connection fails at the driver, or at a definition that refuses, or adds a
connection with a new driver's connection and new caches. -/
theorem openConnection_cases (w : World) (p : PoolId) :
    (∃ due error, (w.driver.faults.connect = due + 1 ∧ error = Driver.loginFailed)
      ∧ w.openConnection p
        = ({ w with driver := { w.driver with faults := { w.driver.faults with connect := due } } },
          .error (.connectionCreation error)))
    ∨ (∃ sources error, (w.driver.faults.connect = 0
        ∧ Source.attemptAll (w.pool p).sources = (sources, .error error)) ∧ w.openConnection p
      = (({ w with driver := (w.driver.openConnection.1.closeConnection
            w.driver.connections.next) } : World).updatePool p
          fun pool => { pool with sources }, .error error))
    ∨ ∃ w' chain sources number, (w.driver.faults.connect = 0
        ∧ Source.attemptAll (w.pool p).sources = (sources, .ok ())
        ∧ number = (w.pool p).opened + 1)
      ∧ w.Equipped w' (w.pool p).config.interceptors chain
      ∧ chain.map Interceptor.name = (w.pool p).config.interceptors.map Definition.instanceName
      ∧ w.openConnection p
        = ((({ w with
            driver := w.driver.openConnection.1
            caches := w'.caches
            connections := w.connections.register
              { pool := p
                physical := w.driver.connections.next
                metadata := .opened number w.now
                chain } } : World).updatePool
          p fun pool => { pool with sources }).updatePool p
            fun pool => { pool with opened := number }, .ok w.connections.next) := by
  unfold openConnection
  obtain ⟨sources, verdict, hattempt⟩ : ∃ sources verdict,
    Source.attemptAll (w.pool p).sources = (sources, verdict) := ⟨_, _, rfl⟩
  have hattempt' : Source.attemptAll
      (({ w with driver := w.driver.openConnection.1 } : World).pool p).sources
        = (sources, verdict) := hattempt
  rcases w.connect_cases with ⟨due, hdue, h⟩ | ⟨hnone, h⟩ <;> rw [h]
  · exact Or.inl ⟨due, _, ⟨hdue, rfl⟩, rfl⟩
  · simp only [hattempt']
    cases verdict with
    | error error => exact Or.inr (Or.inl ⟨sources, error, ⟨hnone, hattempt⟩, rfl⟩)
    | ok _ =>
        -- the sources are written before the interceptors are made
        obtain ⟨v, hv⟩ : ∃ v,
            v = ({ w with driver := w.driver.openConnection.1 } : World).updatePool p
              fun pool => { pool with sources } := ⟨_, rfl⟩
        rw [← hv]
        have hconfig : (v.pool p).config = (w.pool p).config := by
          rw [hv, World.pool_updatePool_congr _ p (fun pool => { pool with sources }) Pool.config
            fun _ => rfl]
          rfl
        have hopened : (v.pool p).opened = (w.pool p).opened := by
          rw [hv, World.pool_updatePool_congr _ p (fun pool => { pool with sources }) Pool.opened
            fun _ => rfl]
          rfl
        rw [hconfig]
        have hmade := v.makeInterceptors_eq (w.pool p).config.interceptors
        have hequipped := equipped_makeInterceptors (w.pool p).config.interceptors v
        have hnames := names_makeInterceptors (w.pool p).config.interceptors v
        obtain ⟨u, chain, hu⟩ : ∃ u chain,
          v.makeInterceptors (w.pool p).config.interceptors = (u, chain) := ⟨_, _, rfl⟩
        rw [hu] at hmade hequipped hnames ⊢
        refine Or.inr (Or.inr ⟨u, chain, sources, (v.pool p).opened + 1,
          ⟨hnone, hattempt, by rw [hopened]⟩, ?_, hnames, ?_⟩)
        · rw [hv] at hequipped
          exact ⟨hequipped.caches_known, hequipped.caches_new, hequipped.nodup,
            hequipped.chain_new, hequipped.policy, hequipped.caching⟩
        · simp only at hmade ⊢
          rw [hmade, hv]
          rfl

end World

namespace Scene

variable {S : Scene}

/-! ## Returning connections -/

/-- When connections are forgotten no store goes that anything is parked in. -/
theorem Steps.forget {w : World} (h : Steps S (S.inWorld w)) (hS : S.Wired)
    (l : List ConnectionId) : Steps S (S.inWorld (l.foldl World.forget w)) := by
  have hw := (h.later_and_wired hS).2.foldl_forget_eq l
  rw [show l.foldl World.forget w = w from hw]
  exact h

theorem steps_share (S : Scene) (c : ConnectionId) : Steps S (S.inWorld (S.world.share c)) :=
  .single (.book { S.world.sameCaching_refl with })

theorem steps_unshare (hS : S.Wired) (c : ConnectionId) :
    Steps S (S.inWorld (S.world.unshare c)) := by
  have hshares : Steps S (S.inWorld { S.world with shares := S.world.shares.erase c }) :=
    .single (.book { S.world.sameCaching_refl with })
  exact hshares.forget hS [c]

/-- **Taking a connection out of its pool.** -/
theorem steps_retire {c : ConnectionId} (hS : Tidy c S) :
    Steps S (S.inWorld (S.world.retire c)) := by
  have hfree : Steps S (S.inWorld (S.world.freeSlot (S.world.connection c).pool)) :=
    .single (.book (S.world.sameCaching_freeSlot _))
  exact (hfree.trans (steps_teardown (hS.steps hfree) false)).forget hS.wired [c]

theorem retire_eq {c : ConnectionId} (hS : Tidy c S) : S.world.retire c
    = World.teardown false (S.world.freeSlot (S.world.connection c).pool) c := by
  have hfree : Steps S (S.inWorld (S.world.freeSlot (S.world.connection c).pool)) :=
    .single (.book (S.world.sameCaching_freeSlot _))
  have htorn := steps_teardown (hS.steps hfree) false
  exact World.Wired.forget_eq (htorn.later_and_wired (hS.steps hfree).wired).2 c

/-- **Returning a connection to its pool.** -/
theorem steps_checkIn {c : ConnectionId} (hS : Tidy c S) :
    Steps S (S.inWorld (S.world.checkIn c)) := by
  unfold World.checkIn
  simp only
  split
  · exact steps_retire hS
  · have hmeta : Steps S (S.inWorld (S.world.updateMetadata c fun metadata =>
        metadata.checkIn S.world.now)) :=
      .single (.book (S.world.sameCaching_updateMetadata c _))
    have hS₁ := hS.steps hmeta
    have hpool : ((S.world.updateMetadata c fun metadata =>
        metadata.checkIn S.world.now).connection c).pool = (S.world.connection c).pool :=
      Connection.pool_of_frame ((hmeta.later_and_wired hS.wired).1.connections c hS.known).2
    refine hmeta.tail (.book (World.sameCaching_updatePool _ _ _ (fun _ => rfl) fun d hd => ?_))
    rcases List.mem_cons.mp hd with rfl | hd
    · exact Or.inr ⟨hS₁.known, hpool, hS₁.ready⟩
    · exact Or.inl hd

theorem steps_teardownAll {l : List ConnectionId} (finalizing : Bool) (hS : S.Wired)
    (hl : ∀ c ∈ l, Tidy c S) :
    Steps S (S.inWorld (l.foldl (World.teardown finalizing) S.world)) :=
  steps_foldl (I := fun S' => S'.Wired ∧ ∀ c ∈ l, Tidy c S')
    (fun h hS' => ⟨(h.later_and_wired hS'.1).2, fun c hc => (hS'.2 c hc).steps h⟩) l
    (fun c hc _ hS' => steps_teardown (hS'.2 c hc) finalizing) S ⟨hS, hl⟩

theorem tidy_of_idle (hS : S.Wired) {p : PoolId} {c : ConnectionId}
    (hc : c ∈ (S.world.pool p).idle) : Tidy c S :=
  ⟨hS, (hS.idle p c hc).1, (hS.idle p c hc).2.2⟩

/-- **Taking out the connections that are too old.** -/
theorem steps_sweep (hS : S.Wired) (p : PoolId) :
    Steps S (S.inWorld (S.world.sweep p).1) := by
  have hnumbers : Steps S (S.inWorld (S.world.updatePool p fun pool =>
      { pool with
        idle := pool.idle.filter fun c => !S.world.isExpired p c
        total := pool.total - (S.world.expired p).length })) :=
    .single (.book (S.world.sameCaching_updatePool p _ (fun _ => rfl) fun c hc =>
      Or.inl (List.mem_of_mem_filter hc)))
  have htorn := hnumbers.trans (steps_teardownAll (l := S.world.expired p) false
    (hnumbers.later_and_wired hS).2 fun c hc =>
      (tidy_of_idle hS (List.mem_of_mem_filter (List.mem_reverse.mp hc))).steps hnumbers)
  exact htorn.forget hS (S.world.expired p)

/-! ## Checking out -/

/-- A connection of a pool. -/
def Of (p : PoolId) (c : ConnectionId) (w : World) : Prop :=
  w.connections.Known c ∧ (w.connection c).pool = p

theorem Of.later {p : PoolId} {c : ConnectionId} {w w' : World} (h : Of p c w)
    (hl : w.Later w') : Of p c w' :=
  ⟨(hl.connections c h.1).1, (Connection.pool_of_frame (hl.connections c h.1).2).trans h.2⟩

theorem steps_openConnection {p : PoolId}
    (ho : (S.world.pool p).closed = false) :
    Steps S (S.inWorld (S.world.openConnection p).1)
      ∧ ∀ c, (S.world.openConnection p).2 = .ok c → Of p c (S.world.openConnection p).1 := by
  obtain ⟨due, error, -, h⟩ | ⟨sources, error, -, h⟩ | ⟨w', chain, sources, number, -, hw, -, h⟩ :=
    S.world.openConnection_cases p <;> rw [h]
  · exact ⟨.single (.book (S.world.sameCaching_faults _)), fun c h => nomatch h⟩
  · refine ⟨?_, fun c h => nomatch h⟩
    have hmisdial : Step S (S.inWorld { S.world with
        driver := S.world.driver.openConnection.1.closeConnection
          S.world.driver.connections.next }) := .misdial
    exact (Relation.ReflTransGen.single hmisdial).tail (.book
      (World.sameCaching_updatePool _ p _ (fun _ => rfl) fun _ hc => Or.inl hc))
  · obtain ⟨metadata, hm⟩ : ∃ metadata, metadata = Metadata.opened number S.world.now := ⟨_, rfl⟩
    rw [← hm]
    have hconnect := Step.connect metadata ho hw
    have hsources := World.sameCaching_updatePool { S.world with
        driver := S.world.driver.openConnection.1
        caches := w'.caches
        connections := S.world.connections.register
          { pool := p, physical := S.world.driver.connections.next, metadata, chain } }
      p (fun pool => { pool with sources }) (fun _ => rfl) fun _ hc => Or.inl hc
    have hopened := World.sameCaching_updatePool ({ S.world with
        driver := S.world.driver.openConnection.1
        caches := w'.caches
        connections := S.world.connections.register
          { pool := p, physical := S.world.driver.connections.next, metadata, chain } }.updatePool
      p (fun pool => { pool with sources }))
      p (fun pool => { pool with opened := number }) (fun _ => rfl) fun _ hc => Or.inl hc
    refine ⟨((Relation.ReflTransGen.single hconnect).tail (.book hsources)).tail (.book hopened),
      fun c hc => ?_⟩
    cases hc
    refine ⟨(Registry.known_register _ _ _).mpr (Or.inr rfl), ?_⟩
    show ((S.world.connections.register _).get S.world.connections.next).pool = p
    rw [Registry.get_register_next]

theorem steps_extend {p : PoolId} (ho : (S.world.pool p).closed = false) :
    Steps S (S.inWorld (S.world.extend p).1)
      ∧ ∀ c, (S.world.extend p).2 = .ok c → Of p c (S.world.extend p).1 := by
  unfold World.extend
  simp only
  split
  · exact ⟨.refl, fun c h => nomatch h⟩
  · have hnumbers : Steps S (S.inWorld (S.world.updatePool p fun pool =>
        { pool with total := pool.total + 1, inUse := pool.inUse + 1 })) :=
      .single (.book (S.world.sameCaching_updatePool p _ (fun _ => rfl) fun _ hc => Or.inl hc))
    obtain ⟨hopen, hof⟩ := steps_openConnection
      ((hnumbers.pool_closed p).trans ho)
    split
    · next w c hw =>
        rw [Scene.inWorld, hw] at hopen hof
        exact ⟨hnumbers.trans hopen, fun d hd => hof d hd⟩
    · next w error hw =>
        rw [Scene.inWorld, hw] at hopen
        exact ⟨(hnumbers.trans hopen).tail (.book (World.sameCaching_freeSlot _ p)),
          fun c h => nomatch h⟩

/-- Acquiring a connection, where those given can be torn down and belong to the pool. -/
theorem steps_acquire {p : PoolId} (l : List ConnectionId) :
    ∀ S : Scene, S.Wired → (S.world.pool p).closed = false →
      (∀ c ∈ l, Tidy c S ∧ Of p c S.world) →
      Steps S (S.inWorld (World.acquire p l S.world).1)
        ∧ ∀ c, (World.acquire p l S.world).2 = .ok c → Of p c (World.acquire p l S.world).1 := by
  induction l with
  | nil => exact fun S _ ho _ => steps_extend ho
  | cons c rest ih =>
      intro S hS ho hl
      have hnumbers : Steps S (S.inWorld (S.world.updatePool p fun pool =>
          { pool with idle := rest, inUse := pool.inUse + 1 })) := by
        refine .single (.book (S.world.sameCaching_updatePool p _ (fun _ => rfl) fun d hd => ?_))
        obtain ⟨htidy, hof⟩ := hl d (List.mem_cons_of_mem c hd)
        exact Or.inr ⟨hof.1, hof.2, htidy.ready⟩
      obtain ⟨hc, hof⟩ := hl c List.mem_cons_self
      have hS₁ := hc.steps hnumbers
      have hlater := (hnumbers.later_and_wired hS).1
      unfold World.acquire
      simp only
      split
      · have hretire := steps_retire hS₁
        have hboth := hnumbers.trans hretire
        obtain ⟨hsteps, hpost⟩ := ih _ (hboth.later_and_wired hS).2
          ((hboth.pool_closed p).trans ho) fun d hd => by
            obtain ⟨htidy, hof⟩ := hl d (List.mem_cons_of_mem c hd)
            exact ⟨htidy.steps hboth, hof.later (hboth.later_and_wired hS).1⟩
        exact ⟨hboth.trans hsteps, hpost⟩
      · refine ⟨hnumbers, fun d hd => ?_⟩
        cases hd
        exact hof.later hlater

/-- What a cache does when its connection is checked out. -/
theorem steps_react_attached {p : PoolId} {c : ConnectionId} {interceptor : Interceptor}
    {k : CacheId} (hof : Of p c S.world) (hi : interceptor ∈ (S.world.connection c).chain)
    (hk : interceptor.cache? = some k) {S' : Scene}
    (hS' : S'.Wired ∧ S.world.Later S'.world ∧ (S'.world.pool p).closed = false) :
    Steps S' (S'.inWorld (World.react (S.world.connection c).pool interceptor (.attached c)
      S'.world)) := by
  have hc := hof.later hS'.2.1
  have hreact : World.react (S.world.connection c).pool interceptor (.attached c) S'.world
      = S'.world.attach k p c := by
    simp only [World.react, Interceptor.role_of_cache hk, hof.2]
  rw [hreact]
  refine steps_attach hS'.1 hc.1 hc.2 (Or.inl ?_) hS'.2.2
  rw [Connection.caches_of_frame (hS'.2.1.connections c hof.1).2]
  exact mem_caches_of_chain hi hk

/-- Once a cache of the connection was told, it is attached; the others stay as they were. -/
theorem deliver_attached {p : PoolId} {c : ConnectionId} {interceptor : Interceptor}
    {k : CacheId} (hof : Of p c S.world) (hi : interceptor ∈ (S.world.connection c).chain)
    (hk : interceptor.cache? = some k) (receiver : Receiver) {S' : Scene}
    (hS' : S'.Wired ∧ S.world.Later S'.world ∧ (S'.world.pool p).closed = false) :
    ∃ w : World, w.caches = S'.world.caches
      ∧ World.deliver (S.world.connection c).pool (.attached c) receiver interceptor S'.world
        = w.updateCache k fun cache =>
            { cache with binding := some ⟨c, (S'.world.pool p).counter?⟩ } := by
  have hnote : Steps S' (S'.inWorld (S'.world.note receiver interceptor
      (.hook (.attached c) (S'.world.sight (S.world.connection c).pool (some c))))) :=
    .single (steps_note S' receiver interceptor (by rintro _ _ ⟨⟩))
  obtain ⟨hlater, hwired⟩ := hnote.later_and_wired hS'.1
  have hc := (hof.later hS'.2.1).later hlater
  have hm := mem_caches_of_chain hi hk
  rw [← Connection.caches_of_frame ((hS'.2.1.trans hlater).connections c hof.1).2] at hm
  have hreact := (step_attach hwired hc.1 hc.2 (Or.inl hm)
    ((hnote.pool_closed p).trans hS'.2.2)).2
  refine ⟨(S'.world.note receiver interceptor (.hook (.attached c)
      (S'.world.sight (S.world.connection c).pool (some c)))).provideStore c,
    World.caches_provideStore _ c, Eq.trans ?_ hreact⟩
  simp only [World.deliver, World.react, Interceptor.role_of_cache hk, hof.2]
  rfl

/-- The chain of a checked out connection is told, and its caches attach themselves. -/
theorem steps_tellAttached {p : PoolId} {c : ConnectionId} (hS : S.Wired) (hof : Of p c S.world)
    (ho : (S.world.pool p).closed = false) :
    Steps S (S.inWorld (S.world.tellChain c (.attached c)))
      ∧ (S.world.tellChain c (.attached c)).Ready c := by
  have hinv : ∀ {S₁ S₂ : Scene}, Steps S₁ S₂ →
      (S₁.Wired ∧ S.world.Later S₁.world ∧ (S₁.world.pool p).closed = false) →
      (S₂.Wired ∧ S.world.Later S₂.world ∧ (S₂.world.pool p).closed = false) :=
    fun h hS' => ⟨(h.later_and_wired hS'.1).2, hS'.2.1.trans (h.later_and_wired hS'.1).1,
      (h.pool_closed p).trans hS'.2.2⟩
  have hS₀ : S.Wired ∧ S.world.Later S.world ∧ (S.world.pool p).closed = false :=
    ⟨hS, .refl _, ho⟩
  have htell : Steps S (S.inWorld (S.world.tellChain c (.attached c))) :=
    steps_tellChain hinv hS₀ fun _ hi _ hk _ hS' => steps_react_attached hof hi hk hS'
  refine ⟨htell, Or.inl fun k hk => ?_⟩
  have hf := ((htell.later_and_wired hS).1.connections c hof.1).2
  rw [show ((S.world.tellChain c (.attached c)).connection c).caches
    = (S.world.connection c).caches from Connection.caches_of_frame hf] at hk
  obtain ⟨interceptor, hi, hk⟩ := List.mem_filterMap.mp hk
  -- every cache attaches itself, and no other link detaches it
  refine holds_tellChain (Q := fun w => ∃ n, (w.cache k).binding = some ⟨c, n⟩) hinv hS₀
    (fun _ hi _ hk _ hS' => steps_react_attached hof hi hk hS')
    (fun link hlink receiver S' hS' hb => ?_) hi fun receiver S' hS' => ?_
  · cases hl : link.cache? with
    | none =>
        rw [World.deliver, World.react_of_no_cache hl]
        exact hb
    | some l =>
        obtain ⟨w, hw, hdeliver⟩ := deliver_attached hof hlink hl receiver hS'
        rw [hdeliver, World.cache_updateCache]
        split
        · exact ⟨_, rfl⟩
        · rw [World.cache, hw]
          exact hb
  · obtain ⟨w, hw, hdeliver⟩ := deliver_attached hof hi hk receiver hS'
    have hknown : S'.world.caches.Known k :=
      (hS'.2.1.caches k (hS.chain_known (mem_caches_of_chain hi hk))).1
    rw [hdeliver, World.cache_updateCache, if_pos ⟨rfl, by rw [hw]; exact hknown⟩]
    exact ⟨_, rfl⟩

/-- A connection of an open pool is handed out. It can be torn down from then on. -/
theorem steps_handOut {p : PoolId} {c : ConnectionId} (hS : S.Wired) (hof : Of p c S.world)
    (ho : (S.world.pool p).closed = false) :
    Steps S (S.inWorld ((S.world.updateMetadata c fun metadata =>
        metadata.checkOut S.world.now).tellChain c (.attached c)))
      ∧ Tidy c (S.inWorld ((S.world.updateMetadata c fun metadata =>
        metadata.checkOut S.world.now).tellChain c (.attached c))) := by
  have hmeta : Steps S (S.inWorld
      (S.world.updateMetadata c fun metadata => metadata.checkOut S.world.now)) :=
    .single (.book (S.world.sameCaching_updateMetadata c _))
  obtain ⟨hlater, hS₁⟩ := hmeta.later_and_wired hS
  have hof₁ := hof.later hlater
  obtain ⟨htell, hready⟩ := steps_tellAttached hS₁ hof₁ ((hmeta.pool_closed p).trans ho)
  obtain ⟨hlater₂, hS₂⟩ := htell.later_and_wired hS₁
  exact ⟨hmeta.trans htell, hS₂, (hof₁.later hlater₂).1, hready⟩

/-- **Checking a connection out of a pool.** It can be torn down from then on. -/
theorem steps_checkOut (hS : S.Wired) (p : PoolId) :
    Steps S (S.inWorld (S.world.checkOut p).1)
      ∧ ∀ c, (S.world.checkOut p).2 = .ok c → Tidy c (S.inWorld (S.world.checkOut p).1) := by
  unfold World.checkOut
  split
  · exact ⟨.refl, fun c h => nomatch h⟩
  · next ho =>
      have ho : (S.world.pool p).closed = false := by simpa using ho
      obtain ⟨hacquire, hof⟩ := steps_acquire (S.world.pool p).idle S hS ho fun c hc =>
        ⟨tidy_of_idle hS hc, (hS.idle p c hc).1, (hS.idle p c hc).2.1⟩
      split
      · next w error hw =>
          rw [hw] at hacquire
          exact ⟨hacquire, fun c h => nomatch h⟩
      · next w c hw =>
          rw [hw] at hacquire hof
          obtain ⟨hhand, htidy⟩ := steps_handOut (hacquire.later_and_wired hS).2 (hof c rfl)
            ((hacquire.pool_closed p).trans ho)
          refine ⟨hacquire.trans hhand, fun d hd => ?_⟩
          cases hd
          exact htidy

/-! ## Starting and closing pools -/

theorem Steps.turns {S S' : Scene} (h : Steps S S') : Turns S S' :=
  Relation.ReflTransGen.mono (fun _ _ => Turn.step) _ _ h

/-- Telling the listeners of a pool, where what a cache does is a turn or nothing. -/
theorem turns_tellListeners {p : PoolId} {hook : Hook} {I : World → Prop}
    (hnote : ∀ w receiver interceptor content, I w → I (w.note receiver interceptor content))
    (hreact : ∀ w, I w → ∀ interceptor ∈ (S.world.pool p).listeners,
      (interceptor.cache?).isSome = true → I (World.react p interceptor hook w)
        ∧ ∀ S : Scene, Turns (S.inWorld w) (S.inWorld (World.react p interceptor hook w)))
    (hS : I S.world) : Turns S (S.inWorld (S.world.tellListeners p hook)) := by
  have hfold : ∀ l : List (Interceptor × Nat), (∀ e ∈ l, e.1 ∈ (S.world.pool p).listeners) →
      ∀ w : World, I w → Turns (S.inWorld w) (S.inWorld (l.foldl (fun w entry =>
        World.deliver p hook (Receiver.listener p entry.2) entry.1 w) w)) := by
    intro l
    induction l with
    | nil => exact fun _ _ _ => .refl
    | cons e l ih =>
        intro hl w hw
        have ih := ih fun e he => hl e (List.mem_cons_of_mem _ he)
        have hstep : Turn (S.inWorld w) (S.inWorld (w.note (Receiver.listener p e.2) e.1
            (.hook hook (w.sight p hook.connection?)))) :=
          .step (steps_note (S.inWorld w) _ _ (by rintro _ _ ⟨⟩))
        have hw' := hnote w (Receiver.listener p e.2) e.1
          (.hook hook (w.sight p hook.connection?)) hw
        cases hk : e.1.cache? with
        | none =>
            have hdeliver : World.deliver p hook (Receiver.listener p e.2) e.1 w
                = w.note (Receiver.listener p e.2) e.1
                  (.hook hook (w.sight p hook.connection?)) :=
              World.react_of_no_cache hk
            rw [List.foldl_cons, hdeliver]
            exact .head hstep (ih _ hw')
        | some k =>
            obtain ⟨hinv, hturns⟩ :=
              hreact _ hw' e.1 (hl e List.mem_cons_self) (by rw [hk]; rfl)
            exact .head hstep ((hturns S).trans (ih _ hinv))
  exact hfold _ (fun e he => List.fst_mem_of_mem_zipIdx he) S.world hS

theorem Turns.trans {S₁ S₂ S₃ : Scene} (h : Turns S₁ S₂) (h' : Turns S₂ S₃) : Turns S₁ S₃ :=
  Relation.ReflTransGen.trans h h'

theorem Turns.later_and_wired {S S' : Scene} (h : Turns S S') (hS : S.Wired) :
    S.world.Later S'.world ∧ S'.Wired := by
  induction h with
  | refl => exact ⟨.refl _, hS⟩
  | tail _ hturn ih =>
      obtain ⟨hl, hw⟩ := hturn.later_and_wired ih.2
      exact ⟨ih.1.trans hl, hw⟩

/-- The listeners of a closed pool are told, and its caches take the counter away. -/
theorem turns_tellClosed {p : PoolId} (hc : (S.world.pool p).closed = true) :
    Turns S (S.inWorld (S.world.tellListeners p .poolClosed)) := by
  refine turns_tellListeners (I := fun w => (w.pool p).closed = true) (fun w _ _ _ h => h)
    (fun w hw link _ hk => ?_) hc
  obtain ⟨k, hk⟩ := Option.isSome_iff_exists.mp hk
  have hreact : World.react p link .poolClosed w = w.stopCounting p := by
    simp only [World.react, Interceptor.role_of_cache hk]
  rw [hreact]
  refine ⟨?_, fun S' => .single (.uncount (S := S'.inWorld w) hw)⟩
  rw [World.stopCounting, World.pool_updatePool_congr w p (fun pool =>
    { pool with attributes := pool.attributes.erase .counter }) Pool.closed fun _ => rfl]
  exact hw

/-- **Closing a pool.** -/
theorem turns_shutDown (hS : S.Wired) (p : PoolId) :
    Turns S (S.inWorld (S.world.shutDown p)) := by
  unfold World.shutDown
  split
  · exact .refl
  · next ho =>
      have ho : (S.world.pool p).closed = false := by simpa using ho
      have hclose : Turn S (S.inWorld (S.world.updatePool p fun pool => { pool with
          closed := true, idle := []
          total := pool.total - ((S.world.pool p).idle.reverse).length })) :=
        .close p fun pool => pool.total - ((S.world.pool p).idle.reverse).length
      have hturns : Turns S _ := .single hclose
      obtain ⟨hlater, hS₁⟩ := hturns.later_and_wired hS
      have htear := steps_teardownAll (l := (S.world.pool p).idle.reverse) true hS₁ fun c hc => by
        have hidle := tidy_of_idle hS (List.mem_reverse.mp hc)
        exact ⟨hS₁, (hlater.connections c hidle.known).1, hlater.ready c hidle.known hidle.ready⟩
      have hclosed : ((S.world.updatePool p fun pool => { pool with
          closed := true, idle := []
          total := pool.total - ((S.world.pool p).idle.reverse).length }).pool p).closed
            = true := by
        rw [World.pool_updatePool, if_pos ⟨rfl, S.world.known_of_pool_open ho⟩]
      have hall := (hturns.trans htear.turns).trans
        (turns_tellClosed ((htear.pool_closed p).trans hclosed))
      have hforget := (hall.later_and_wired hS).2.foldl_forget_eq (S.world.pool p).idle.reverse
      dsimp only [inWorld] at hall hforget ⊢
      rw [hforget]
      exact hall

/-- **Starting a pool.** -/
theorem turns_startPool (config : PoolConfig) :
    Turns S (S.inWorld (S.world.startPool config).1) := by
  obtain ⟨error, h⟩ | ⟨sources, h⟩ := S.world.startPool_cases config
  · rw [h]
    exact .refl
  · rw [h]
    have hfound : Turn S (S.inWorld (S.world.founded config sources)) :=
      .found (World.equipped_makeInterceptors config.interceptors S.world)
    have hpool := S.world.pool_founded_next config sources
    refine .head hfound (turns_tellListeners
      (I := fun w => (w.pool S.world.pools.next).closed = false
        ∧ (w.pool S.world.pools.next).config = config) (fun _ _ _ _ h => h)
      (fun w hw link hl hk => ?_) ⟨congrArg Pool.closed hpool, congrArg Pool.config hpool⟩)
    · -- a cache that hears of the start sees to it that the pool has a counter
      have hcaching : config.Caching := by
        dsimp only [inWorld] at hl
        rw [hpool] at hl
        exact World.caching_of_makeInterceptors hl hk
      obtain ⟨k, hk⟩ := Option.isSome_iff_exists.mp hk
      have hreact : World.react S.world.pools.next link .poolStarted w
          = w.startCounting S.world.pools.next := by
        simp only [World.react, Interceptor.role_of_cache hk]
      rw [hreact]
      refine ⟨⟨(w.pool_startCounting_congr _ Pool.closed (fun _ _ => rfl) _).trans hw.1,
        (w.pool_startCounting_congr _ Pool.config (fun _ _ => rfl) _).trans hw.2⟩,
        fun S' => ?_⟩
      cases hn : (w.pool S.world.pools.next).counter? with
      | none => exact .single (.count (S := S'.inWorld w) hw.1 hn (hw.2 ▸ hcaching))
      | some n =>
          have hsame : w.startCounting S.world.pools.next = w := by
            rw [World.startCounting, hn]
          rw [hsame]

end Scene

end ConnectionPool
