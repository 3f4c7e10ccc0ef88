import ConnectionPool.Proofs.Custody.Discarding

/-!
# What a checkout comes to

A pool that is open and has room for one more connection either lends the first idle connection
that is fit, or, where none remains, tries once to open another. `World.Supplies` lists the four
ways in which that ends, each with everything that is signalled, the books of the pool
afterwards, and the connection that is handed out. A checkout of a pool that is open and has room
is one of them (`supplies_checkOut`); in particular it never reports that the pool is full.
-/

set_option autoImplicit false

namespace ConnectionPool

/-- An attempt at all sources fails only at one that refuses. -/
theorem Source.attemptAll_error {sources sources' : List Source} {error : PoolError}
    (h : attemptAll sources = (sources', .error error)) :
    ∃ name, error = .configuration (.refusedInterceptor name) := by
  induction sources generalizing sources' with
  | nil => cases h
  | cons source rest ih =>
      rw [attemptAll] at h
      simp only at h
      split at h
      · cases h
        exact ⟨_, rfl⟩
      · obtain ⟨rest', verdict, hrest⟩ : ∃ rest' verdict, attemptAll rest = (rest', verdict) :=
          ⟨_, _, rfl⟩
        rw [hrest] at h
        cases h
        exact ih hrest

namespace World

variable {w v w' w'' : World} {p : PoolId} {c : ConnectionId} {lent : Option ConnectionId}
  {signals : List Signal} {books : Pool} {rest : List ConnectionId}
  {out : Multiset ConnectionId} {raw : PhysicalConnectionId → Prop}

/-! ## Outside one pool -/

/-- **Nothing happens outside** the books of one pool and the connection that it lends. -/
structure Contained (p : PoolId) (lent : Option ConnectionId) (w w' : World) : Prop where
  pools : ∀ q, q ≠ p → (w'.pool q).exterior = (w.pool q).exterior
  connections : ∀ d, w.connections.Known d → w'.connections.Known d
    ∧ (lent ≠ some d → (w'.connection d).exterior = (w.connection d).exterior)
  lines : ∀ line, w.driver.connections.Known line → w'.driver.connections.Known line
    ∧ (w'.driver.connection line).closed = (w.driver.connection line).closed

theorem Contained.trans (h : Contained p lent w w') (h' : Contained p lent w' w'') :
    Contained p lent w w'' where
  pools q hq := (h'.pools q hq).trans (h.pools q hq)
  connections d hd := by
    obtain ⟨hd', hsame⟩ := h.connections d hd
    obtain ⟨hd'', hsame'⟩ := h'.connections d hd'
    exact ⟨hd'', fun hne => (hsame' hne).trans (hsame hne)⟩
  lines line hk := by
    obtain ⟨hk', hsame⟩ := h.lines line hk
    obtain ⟨hk'', hsame'⟩ := h'.lines line hk'
    exact ⟨hk'', hsame'.trans hsame⟩

theorem contained_updatePool (w : World) (p : PoolId) (lent : Option ConnectionId)
    (f : Pool → Pool) : Contained p lent w (w.updatePool p f) where
  pools q hq := by rw [pool_updatePool_of_ne hq.symm]
  connections _ hd := ⟨hd, fun _ => rfl⟩
  lines _ hk := ⟨hk, rfl⟩

/-- A connection that is handed out. -/
def handOut (w : World) (c : ConnectionId) : World :=
  (w.updateMetadata c fun metadata => metadata.checkOut w.now).tellChain c (.attached c)

/-- **Handing a connection out** changes its record only. -/
theorem alters_handOut (hk : w.connections.Known c) :
    Alters c { w.connection c with metadata := (w.connection c).metadata.checkOut w.now } w
      (w.handOut c) := by
  have hwritten := (Alters.refl w c).update hk (fun connection =>
    { connection with metadata := connection.metadata.checkOut w.now }) fun _ => rfl
  exact hwritten.unseen (unseen_tellChain _ c (.attached c))

theorem contained_handOut (hk : w.connections.Known c) (p : PoolId) :
    Contained p (some c) w (w.handOut c) where
  pools q _ := (alters_handOut hk).pool q
  connections d hd := ⟨((alters_handOut hk).known d).mpr hd, fun hne =>
    (alters_handOut hk).other d fun he => hne (congrArg some he.symm)⟩
  lines line hl := by
    have hlines : (w.handOut c).driver.connections = w.driver.connections :=
      (unseen_tellChain _ c (.attached c)).lines
    rw [hlines, Driver.connection, hlines]
    exact ⟨hl, rfl⟩

/-! ## After a checkout -/

/-- **What every checkout leaves behind** that is not refused: what was signalled, the books of the
pool, and the connections that it passed over, which are gone. All others, and all other pools, are
as they were, apart from the connection that is lent. -/
structure Supply (p : PoolId) (lent : Option ConnectionId) (signals : List Signal) (books : Pool)
    (w w' : World) : Prop where
  signals : Emits signals w w'
  books : (w'.pool p).exterior = books.exterior
  pools : ∀ q, q ≠ p → (w'.pool q).exterior = (w.pool q).exterior
  gone : ∀ c ∈ w.passedOver p,
    (w'.connection c).exterior = ((w.connection c).hungUp.enter .closed).exterior
      ∧ (w'.driver.connection (w.connection c).physical).closed = true
  kept : ∀ d, w.connections.Known d → d ∉ w.passedOver p → lent ≠ some d →
    (w'.connection d).exterior = (w.connection d).exterior
      ∧ (w'.driver.connection (w.connection d).physical).closed
        = (w.driver.connection (w.connection d).physical).closed

/-- What happens once the search has come to its end. -/
theorem SearchedTo.supply (h : SearchedTo raw out p (w.passedOver p) rest w v)
    (hw : w.Balanced out) (hplug : w.Plugged raw) (hc : Contained p lent v w')
    (hlent : ∀ c ∈ w.passedOver p, lent ≠ some c) (hs : Emits signals v w')
    (hbooks : (w'.pool p).exterior = books.exterior) :
    Supply p lent (w.farewells (w.passedOver p) ++ signals) books w w' := by
  have hidle : ∀ c ∈ w.passedOver p, w.Waiting p c := fun c hm =>
    hw.waiting p c (mem_idle_of_passedOver hm)
  have hknown : ∀ d, w.connections.Known d → v.connections.Known d := fun d =>
    (Registry.known_congr h.discarded.connections_size d).mpr
  have hline : ∀ d, w.connections.Known d →
      v.driver.connections.Known (w.connection d).physical := fun d hd =>
    (Registry.known_congr h.discarded.lines_size _).mpr (hplug.known d hd)
  exact
    { signals := h.discarded.emits.trans hs
      books := hbooks
      pools := fun q hq => (hc.pools q hq).trans (h.discarded.pools q hq)
      gone := fun c hm => by
        have hk := (hidle c hm).live.known
        refine ⟨((hc.connections c (hknown c hk)).2 (hlent c hm)).trans (h.discarded.gone c hm), ?_⟩
        rw [(hc.lines _ (hline c hk)).2, h.discarded.lines]
        exact Or.inl ⟨c, hm, rfl⟩
      kept := fun d hk hm hne => by
        refine ⟨((hc.connections d (hknown d hk)).2 hne).trans (h.discarded.others d hm), ?_⟩
        rw [(hc.lines _ (hline d hk)).2]
        exact h.discarded.line_of_notMem hplug (fun c hc => (hidle c hc).live.known) hm hk }

/-- The connection that a pool opens next, with a given chain. -/
def newcomer (w : World) (p : PoolId) (chain : List Interceptor) : Connection where
  pool := p
  physical := w.driver.connections.next
  metadata := .opened ((w.pool p).opened + 1) w.now
  chain := chain

/-- **How a checkout ends** that is not refused: an idle connection is lent; another is opened; the
driver cannot be reached; or a definition refuses to make an interceptor, and the line that was
opened is closed again. -/
inductive Supplies (p : PoolId) (w w' : World) : Except PoolError ConnectionId → Prop
  | lends {c : ConnectionId} {rest : List ConnectionId} (hc : w.remaining p = c :: rest)
      (supply : Supply p (some c)
        (w.farewells (w.passedOver p)
          ++ (w.connection c).welcome c ((w.connection c).metadata.checkouts + 1))
        { w.pool p with
          idle := rest
          total := (w.pool p).total - (w.passedOver p).length
          inUse := (w.pool p).inUse + 1 } w w')
      (same : w'.connections.size = w.connections.size)
      (lent : (w'.connection c).exterior = ({ w.connection c with
        metadata := (w.connection c).metadata.checkOut w.now } : Connection).exterior)
      (faults : w'.driver.faults = w.driver.faults) : Supplies p w w' (.ok c)
  | opens {sources : List ConnectionPool.Source} {chain : List Interceptor}
      (hc : w.remaining p = [])
      (reached : w.driver.faults.connect = 0)
      (made : ConnectionPool.Source.attemptAll (w.pool p).sources = (sources, .ok ()))
      (names : chain.map Interceptor.name
        = (w.pool p).config.interceptors.map Definition.instanceName)
      (supply : Supply p (some w.connections.next)
        (w.farewells (w.passedOver p) ++ .opened w.driver.connections.next
          :: (w.newcomer p chain).welcome w.connections.next 1)
        { w.pool p with
          idle := []
          total := (w.pool p).inUse + 1
          inUse := (w.pool p).inUse + 1
          sources := sources
          opened := (w.pool p).opened + 1 } w w')
      (more : w'.connections.size = w.connections.size + 1)
      (lent : (w'.connection w.connections.next).exterior = ({ w.newcomer p chain with
        metadata := (w.newcomer p chain).metadata.checkOut w.now } : Connection).exterior)
      (line : (w'.driver.connection w.driver.connections.next).closed = false)
      (faults : w'.driver.faults = w.driver.faults) :
      Supplies p w w' (.ok w.connections.next)
  | unreachable {due : Nat} (hc : w.remaining p = [])
      (failed : w.driver.faults.connect = due + 1)
      (supply : Supply p none (w.farewells (w.passedOver p))
        { w.pool p with idle := [], total := (w.pool p).inUse } w w')
      (same : w'.connections.size = w.connections.size)
      (faults : w'.driver.faults = { w.driver.faults with connect := due }) :
      Supplies p w w' (.error (.connectionCreation Driver.loginFailed))
  | refuses {sources : List ConnectionPool.Source} {name : String} (hc : w.remaining p = [])
      (reached : w.driver.faults.connect = 0)
      (refused : ConnectionPool.Source.attemptAll (w.pool p).sources
        = (sources, .error (.configuration (.refusedInterceptor name))))
      (supply : Supply p none
        (w.farewells (w.passedOver p)
          ++ [.opened w.driver.connections.next, .hungUp w.driver.connections.next])
        { w.pool p with idle := [], total := (w.pool p).inUse, sources := sources } w w')
      (same : w'.connections.size = w.connections.size)
      (line : (w'.driver.connection w.driver.connections.next).closed = true)
      (faults : w'.driver.faults = w.driver.faults) :
      Supplies p w w' (.error (.configuration (.refusedInterceptor name)))

/-- A checkout that is not refused does not say that the pool is full. -/
theorem Supplies.not_full {result : Except PoolError ConnectionId} (h : Supplies p w w' result)
    (limit : Nat) : result ≠ .error (.maxConnectionsReached limit) := by
  cases h <;> rintro ⟨⟩

/-! ## The search has come to its end -/

theorem checkOut_of_acquire_ok (hopen : (w.pool p).closed = false)
    (h : acquire p (w.pool p).idle w = (v, .ok c)) : w.checkOut p = (v.handOut c, .ok c) := by
  simp [checkOut, hopen, h, handOut]

theorem checkOut_of_acquire_error {error : PoolError} (hopen : (w.pool p).closed = false)
    (h : acquire p (w.pool p).idle w = (v, .error error)) :
    w.checkOut p = (v, .error error) := by
  simp [checkOut, hopen, h]

/-! ## An idle connection remains -/

/-- A connection that remains was not passed over. -/
theorem Balanced.not_mem_passedOver (hw : w.Balanced out) (hr : w.remaining p = c :: rest) :
    c ∉ w.passedOver p := by
  have hnodup := hw.idle_nodup p
  rw [← w.passedOver_append_remaining p, hr] at hnodup
  exact fun hc => List.disjoint_of_nodup_append hnodup hc List.mem_cons_self

/-- **The search ends at the first connection that is fit.** It is as fit as it was before the
search, since only others were discarded. -/
theorem SearchedTo.acquire_ok (h : SearchedTo raw out p (w.passedOver p) (c :: rest) w v)
    (hw : w.Balanced out) (hplug : w.Plugged raw) (hr : w.remaining p = c :: rest) :
    acquire p (w.pool p).idle w = (v.takeIdle p rest, .ok c) := by
  have hwaits := hw.waiting p c (mem_idle_of_remaining (hr ▸ List.mem_cons_self))
  have hknown : ∀ d ∈ w.passedOver p, w.connections.Known d := fun d hd =>
    (hw.waiting p d (mem_idle_of_passedOver hd)).live.known
  have hfit : v.unfit p c = false := by
    rw [h.discarded.unfit hplug hknown (hw.not_mem_passedOver hr) hwaits.live.known]
    exact fit_of_remaining hr
  rw [← w.passedOver_append_remaining p, hr, h.search, acquire_of_fit hfit]

/-- **An idle connection was taken**, after those before it were discarded. -/
structure Taken (p : PoolId) (c : ConnectionId) (rest : List ConnectionId) (w v u : World) :
    Prop where
  live : u.Live c
  exterior : (u.connection c).exterior = (w.connection c).exterior
  books : (u.pool p).exterior = ({ w.pool p with
    idle := rest
    total := (w.pool p).total - (w.passedOver p).length
    inUse := (w.pool p).inUse + 1 } : Pool).exterior
  contained : Contained p (some c) v u
  silent : Emits [] v u
  now : u.now = w.now
  faults : u.driver.faults = w.driver.faults
  size : u.connections.size = w.connections.size

theorem SearchedTo.taken (h : SearchedTo raw out p (w.passedOver p) (c :: rest) w v)
    (hw : w.Balanced out) (hr : w.remaining p = c :: rest) (hp : v.pools.Known p) :
    Taken p c rest w v (v.takeIdle p rest) where
  live := by
    have hidle : c ∈ (v.pool p).idle := by
      rw [read_congr h.discarded.books Pool.idle fun _ => rfl]
      exact List.mem_cons_self
    exact (h.balanced.waiting p c hidle).live.updatePool _ _
  exterior := h.discarded.others c (hw.not_mem_passedOver hr)
  books := by
    rw [takeIdle, pool_updatePool_self hp]
    exact read_congr h.discarded.books (fun pool =>
      ({ pool with idle := rest, inUse := pool.inUse + 1 } : Pool).exterior) fun _ => rfl
  contained := v.contained_updatePool p _ _
  silent := emits_none rfl rfl
  now := h.discarded.now
  faults := h.discarded.faults
  size := h.discarded.connections_size

/-- **What was taken is lent.** -/
theorem Taken.lends {u : World} (hu : Taken p c rest w v u)
    (h : SearchedTo raw out p (w.passedOver p) (c :: rest) w v) (hw : w.Balanced out)
    (hplug : w.Plugged raw) (hr : w.remaining p = c :: rest) :
    Supplies p w (u.handOut c) (.ok c) := by
  have halters := alters_handOut hu.live.known
  have hsignals : Emits ((w.connection c).welcome c ((w.connection c).metadata.checkouts + 1)) v
      (u.handOut c) := by
    have hhanded := hu.silent.trans (Custody.emits_handOut hu.live)
    rw [read_congr hu.exterior (fun connection =>
      connection.welcome c (connection.metadata.checkouts + 1)) fun _ => rfl] at hhanded
    exact hhanded
  have hapart : ∀ d ∈ w.passedOver p, some c ≠ some d := fun d hd he =>
    hw.not_mem_passedOver hr (Option.some.inj he ▸ hd)
  have htold := (unseen_tellChain (u.updateMetadata c fun metadata =>
    metadata.checkOut u.now) c (.attached c)).faults
  refine .lends hr
    (h.supply hw hplug (hu.contained.trans (contained_handOut hu.live.known p)) hapart hsignals
      ((halters.pool p).trans hu.books))
    (halters.connections_size.trans hu.size) ?_ (htold.trans hu.faults)
  rw [halters.self, hu.now]
  exact read_congr hu.exterior (fun connection =>
    ({ connection with metadata := connection.metadata.checkOut w.now } : Connection).exterior)
    fun _ => rfl

/-- **An idle connection is lent.** -/
theorem SearchedTo.lends (h : SearchedTo raw out p (w.passedOver p) (c :: rest) w v)
    (hw : w.Balanced out) (hplug : w.Plugged raw) (hopen : (w.pool p).closed = false)
    (hr : w.remaining p = c :: rest) :
    Supplies p w (w.checkOut p).1 (w.checkOut p).2 := by
  have hp : v.pools.Known p :=
    (Registry.known_congr h.discarded.pools_size p).mpr (w.known_of_pool_open hopen)
  rw [checkOut_of_acquire_ok hopen (h.acquire_ok hw hplug hr)]
  exact (h.taken hw hr hp).lends h hw hplug hr

/-! ## No idle connection remains -/

theorem contained_faults (w : World) (p : PoolId) (lent : Option ConnectionId) (faults : Faults) :
    Contained p lent w { w with driver := { w.driver with faults } } :=
  ⟨fun _ _ => rfl, fun _ hd => ⟨hd, fun _ => rfl⟩, fun _ hk => ⟨hk, rfl⟩⟩

theorem contained_misdial (w : World) (p : PoolId) (lent : Option ConnectionId) :
    Contained p lent w { w with
      driver := w.driver.openConnection.1.closeConnection w.driver.connections.next } where
  pools _ _ := rfl
  connections _ hd := ⟨hd, fun _ => rfl⟩
  lines line hk := by
    refine ⟨(Registry.known_congr (Driver.size_connections_closeConnection _ _) line).mpr
      ((Registry.known_register _ _ _).mpr (Or.inl hk)), ?_⟩
    rw [Driver.closed_closeConnection, connection_openConnection _ hk,
      decide_eq_false (Registry.next_ne hk), Bool.false_or]

theorem contained_enlist (w : World) (p : PoolId) (lent : Option ConnectionId) (number : Nat)
    (chain : List Interceptor) (caches : Registry StatementCache) :
    Contained p lent w { w.enlist p number chain with caches } where
  pools _ _ := rfl
  connections d hd := by
    refine ⟨(Registry.known_register _ _ _).mpr (Or.inl hd), fun _ => ?_⟩
    exact congrArg Connection.exterior (Registry.get_register_of_known _ hd)
  lines line hk :=
    ⟨(Registry.known_register _ _ _).mpr (Or.inl hk),
      congrArg PhysicalConnection.closed (connection_openConnection _ hk)⟩

/-- The books of a pool whose idle connections were all discarded. -/
theorem SearchedTo.drained (h : SearchedTo raw out p (w.passedOver p) [] w v)
    (hw : w.Balanced out) (hr : w.remaining p = []) :
    (v.pool p).exterior
      = ({ w.pool p with idle := [], total := (w.pool p).inUse } : Pool).exterior := by
  have hidle : w.passedOver p = (w.pool p).idle := by
    rw [← w.passedOver_append_remaining p, hr, List.append_nil]
  have htotal : (w.pool p).total = (w.pool p).inUse + (w.pool p).idle.length := (hw.sums p).total
  rw [h.discarded.books, hidle, htotal, Nat.add_sub_cancel]

/-- **A slot was taken for a new connection**, after all idle connections were discarded. -/
structure Poised (p : PoolId) (w v u : World) : Prop where
  known : u.pools.Known p
  books : (u.pool p).exterior = ({ w.pool p with
    idle := []
    total := (w.pool p).inUse + 1
    inUse := (w.pool p).inUse + 1 } : Pool).exterior
  contained : ∀ lent, Contained p lent v u
  silent : Emits [] v u
  now : u.now = w.now
  faults : u.driver.faults = w.driver.faults
  size : u.connections.size = w.connections.size
  lines_size : u.driver.connections.size = w.driver.connections.size

theorem SearchedTo.poised (h : SearchedTo raw out p (w.passedOver p) [] w v)
    (hw : w.Balanced out) (hr : w.remaining p = []) (hp : v.pools.Known p) :
    Poised p w v (v.updatePool p Pool.takeSlot) where
  known := (Registry.known_modify _ _ _ _).mpr hp
  books := by
    rw [pool_updatePool_self hp]
    exact read_congr (h.drained hw hr) (fun pool => pool.takeSlot.exterior) fun _ => rfl
  contained lent := v.contained_updatePool p lent _
  silent := emits_none rfl rfl
  now := h.discarded.now
  faults := h.discarded.faults
  size := h.discarded.connections_size
  lines_size := h.discarded.lines_size

section Poised

variable {u : World} (h : SearchedTo raw out p (w.passedOver p) [] w v) (hw : w.Balanced out)
  (hplug : w.Plugged raw) (hr : w.remaining p = []) (hu : Poised p w v u)
include h hw hplug hr hu

/-- **The driver cannot be reached**, and the slot is given back. -/
theorem Poised.unreachable {due : Nat} (hdue : u.driver.faults.connect = due + 1) :
    Supplies p w (({ u with driver := { u.driver with
        faults := { u.driver.faults with connect := due } } } : World).freeSlot p)
      (.error (.connectionCreation Driver.loginFailed)) := by
  obtain ⟨x, hx⟩ : ∃ x : World, x = { u with driver := { u.driver with
    faults := { u.driver.faults with connect := due } } } := ⟨_, rfl⟩
  rw [← hx]
  have hcontained : Contained p none v (x.freeSlot p) := by
    refine ((hu.contained none).trans ?_).trans (x.contained_updatePool p none _)
    rw [hx]
    exact u.contained_faults p none _
  have hsilent : Emits [] v (x.freeSlot p) :=
    hu.silent.trans (emits_none (by rw [hx]; rfl) (by rw [hx]; rfl))
  have hbooks : ((x.freeSlot p).pool p).exterior
      = ({ w.pool p with idle := [], total := (w.pool p).inUse } : Pool).exterior := by
    rw [freeSlot, pool_updatePool_self (by rw [hx]; exact hu.known), hx]
    exact read_congr hu.books (fun pool =>
      ({ pool with total := pool.total - 1, inUse := pool.inUse - 1 } : Pool).exterior) fun _ => rfl
  have hsupply := h.supply hw hplug hcontained (fun c _ => (Option.some_ne_none c).symm) hsilent
    hbooks
  rw [List.append_nil] at hsupply
  refine .unreachable hr (hu.faults ▸ hdue) hsupply ?_ ?_
  · rw [hx]
    exact hu.size
  · rw [hx, ← hu.faults]
    rfl

/-- **A definition refuses**: the line that was opened is closed again, and the slot is given
back. -/
theorem Poised.refuses {sources : List ConnectionPool.Source} {name : String}
    (hreached : u.driver.faults.connect = 0)
    (hrefused : ConnectionPool.Source.attemptAll (u.pool p).sources
      = (sources, .error (.configuration (.refusedInterceptor name)))) :
    Supplies p w (((({ u with driver := (u.driver.openConnection.1.closeConnection
        u.driver.connections.next) } : World).updatePool p
          fun pool => { pool with sources })).freeSlot p)
      (.error (.configuration (.refusedInterceptor name))) := by
  -- a line is opened and closed, the sources are written, and the slot is given back
  obtain ⟨x, hx⟩ : ∃ x : World, x = { u with driver :=
    u.driver.openConnection.1.closeConnection u.driver.connections.next } := ⟨_, rfl⟩
  rw [← hx]
  have hline : u.driver.connections.next = w.driver.connections.next := by
    rw [Registry.next, Registry.next, hu.lines_size]
  have hknown : x.pools.Known p := by
    rw [hx]
    exact hu.known
  obtain ⟨y, hy⟩ : ∃ y, y = x.updatePool p fun pool => { pool with sources } := ⟨_, rfl⟩
  rw [← hy]
  have hcontained : Contained p none v (y.freeSlot p) := by
    have hdialled : Contained p none u x := by
      rw [hx]
      exact u.contained_misdial p none
    have hwritten : Contained p none x y := by
      rw [hy]
      exact x.contained_updatePool p none _
    exact ((hu.contained none).trans (hdialled.trans hwritten)).trans
      (y.contained_updatePool p none _)
  have hsignals : Emits [.opened w.driver.connections.next, .hungUp w.driver.connections.next] v
      (y.freeSlot p) := by
    have hmisdial := Custody.emits_misdial u
    rw [hline] at hmisdial
    have hlast : Emits [] x (y.freeSlot p) := emits_none (by rw [hy]; rfl) (by rw [hy]; rfl)
    rw [hx, hline] at hlast
    exact hu.silent.trans (hmisdial.trans hlast)
  have hbooks : ((y.freeSlot p).pool p).exterior = ({ w.pool p with
      idle := [], total := (w.pool p).inUse, sources } : Pool).exterior := by
    have hyknown : y.pools.Known p := by
      rw [hy]
      exact (Registry.known_modify _ _ _ _).mpr hknown
    rw [freeSlot, pool_updatePool_self hyknown, hy, pool_updatePool_self hknown, hx]
    exact read_congr hu.books (fun pool => ({ pool with
      sources, total := pool.total - 1, inUse := pool.inUse - 1 } : Pool).exterior) fun _ => rfl
  have hsources : (u.pool p).sources = (w.pool p).sources :=
    read_congr hu.books Pool.sources fun _ => rfl
  have hdriver : (y.freeSlot p).driver = x.driver := by
    rw [hy]
    rfl
  refine .refuses hr (hu.faults ▸ hreached) (hsources ▸ hrefused)
    (h.supply hw hplug hcontained (fun c _ => (Option.some_ne_none c).symm) hsignals hbooks)
    ?_ ?_ ?_
  · rw [hy, hx]
    exact hu.size
  · rw [hdriver, hx, ← hline, Driver.closed_closeConnection, decide_eq_true rfl, Bool.true_or]
  · rw [hdriver, hx, ← hu.faults]
    exact faults_closeConnection _ _

end Poised

/-! ## A new connection -/

/-- **A new connection has joined its pool**, and has yet to be handed out. -/
structure Joined (p : PoolId) (sources : List ConnectionPool.Source) (chain : List Interceptor)
    (w v y : World) : Prop where
  connection : y.connection w.connections.next = w.newcomer p chain
  live : y.Live w.connections.next
  contained : Contained p (some w.connections.next) v y
  dialled : Emits [.opened w.driver.connections.next] v y
  books : (y.pool p).exterior = ({ w.pool p with
    idle := []
    total := (w.pool p).inUse + 1
    inUse := (w.pool p).inUse + 1
    sources := sources
    opened := (w.pool p).opened + 1 } : Pool).exterior
  now : y.now = w.now
  size : y.connections.size = w.connections.size + 1
  faults : y.driver.faults = w.driver.faults

section Joined

variable {u : World} {sources : List ConnectionPool.Source} {chain : List Interceptor}
  {caches : Registry StatementCache}

theorem Poised.joined (hu : Poised p w v u) :
    Joined p sources chain w v
      ((({ u.enlist p ((u.pool p).opened + 1) chain with caches } : World).updatePool p
        fun pool => { pool with sources }).updatePool p
          fun pool => { pool with opened := (u.pool p).opened + 1 }) := by
  have hopened : (u.pool p).opened = (w.pool p).opened :=
    read_congr hu.books Pool.opened fun _ => rfl
  have hline : u.driver.connections.next = w.driver.connections.next := by
    rw [Registry.next, Registry.next, hu.lines_size]
  have hnext : u.connections.next = w.connections.next := by
    rw [Registry.next, Registry.next, hu.size]
  -- the connection is listed first, and then the books of its pool are written twice
  obtain ⟨x, hx⟩ : ∃ x : World, x = { u.enlist p ((u.pool p).opened + 1) chain with caches } :=
    ⟨_, rfl⟩
  rw [← hx]
  have hxknown : x.pools.Known p := by
    rw [hx]
    exact hu.known
  have hlive : x.Live w.connections.next := by
    have hadded := (u.adds_enlist p ((u.pool p).opened + 1) chain).waiting.live
    rw [hnext] at hadded
    rw [hx]
    exact ⟨hadded.known, hadded.unclosed, hadded.line⟩
  have hcontained : Contained p (some w.connections.next) u x := by
    rw [hx]
    exact u.contained_enlist p _ ((u.pool p).opened + 1) chain caches
  have hdialled : Emits [.opened u.driver.connections.next] u x :=
    emits_events [.connected u.driver.connections.next] (by rw [hx]; rfl) (by rw [hx]; rfl)
  exact
    { connection := by
        rw [hx, newcomer, ← hnext, ← hline, ← hopened, ← hu.now]
        exact u.connection_enlist p _ chain
      live := (hlive.updatePool p _).updatePool p _
      contained := ((hu.contained _).trans hcontained).trans
        ((x.contained_updatePool p _ _).trans (contained_updatePool _ p _ _))
      dialled := by
        rw [hline] at hdialled
        exact hu.silent.trans (hdialled.trans (emits_none rfl rfl))
      books := by
        rw [pool_updatePool_self ((Registry.known_modify _ _ _ _).mpr hxknown),
          pool_updatePool_self hxknown, hx, ← hopened]
        exact read_congr hu.books (fun pool => ({ pool with
          sources, opened := (u.pool p).opened + 1 } : Pool).exterior) fun _ => rfl
      now := by
        rw [← hu.now, hx]
        rfl
      size := by
        rw [← hu.size, hx]
        exact Registry.size_register _ _
      faults := by
        rw [← hu.faults, hx]
        rfl }

/-- **A connection is opened** and handed out. -/
theorem Joined.opens {y : World} (he : Joined p sources chain w v y)
    (h : SearchedTo raw out p (w.passedOver p) [] w v) (hw : w.Balanced out)
    (hplug : w.Plugged raw) (hr : w.remaining p = []) (hreached : w.driver.faults.connect = 0)
    (hmade : ConnectionPool.Source.attemptAll (w.pool p).sources = (sources, .ok ()))
    (hnames : chain.map Interceptor.name
      = (w.pool p).config.interceptors.map Definition.instanceName) :
    Supplies p w (y.handOut w.connections.next) (.ok w.connections.next) := by
  have halters := alters_handOut he.live.known
  have hcontained : Contained p (some w.connections.next) v (y.handOut w.connections.next) :=
    he.contained.trans (contained_handOut he.live.known p)
  have hsignals : Emits (.opened w.driver.connections.next
      :: (w.newcomer p chain).welcome w.connections.next 1) v (y.handOut w.connections.next) := by
    have hwelcome := Custody.emits_handOut he.live
    rw [he.connection] at hwelcome
    exact he.dialled.trans hwelcome
  have hlent := halters.self
  rw [he.connection, he.now] at hlent
  have htold := unseen_tellChain (y.updateMetadata w.connections.next fun metadata =>
    metadata.checkOut y.now) w.connections.next (.attached w.connections.next)
  refine .opens hr hreached hmade hnames (h.supply hw hplug hcontained (fun c hc hne => ?_)
    hsignals ((halters.pool p).trans he.books)) (halters.connections_size.trans he.size) hlent
    ?_ (htold.faults.trans he.faults)
  · -- what was passed over was there before
    have hknown := (hw.waiting p c (mem_idle_of_passedOver hc)).live.known
    exact Registry.next_ne hknown (Option.some.inj hne)
  · rw [handOut, Driver.connection, htold.lines]
    have hline := he.live.line
    rw [he.connection] at hline
    exact hline

end Joined

/-- **Where no idle connection remains**, one attempt is made to open another. -/
theorem SearchedTo.extends (h : SearchedTo raw out p (w.passedOver p) [] w v)
    (hw : w.Balanced out) (hplug : w.Plugged raw) (hopen : (w.pool p).closed = false)
    (hr : w.remaining p = [])
    (hroom : w.taken out p ≠ (w.pool p).config.maxConnections) :
    Supplies p w (w.checkOut p).1 (w.checkOut p).2 := by
  have hp := w.known_of_pool_open hopen
  have hvp : v.pools.Known p := (Registry.known_congr h.discarded.pools_size p).mpr hp
  have hdrained := h.drained hw hr
  have hlimit : (v.pool p).total < (v.pool p).config.maxConnections := by
    rw [read_congr hdrained Pool.total fun _ => rfl, read_congr hdrained Pool.config fun _ => rfl]
    obtain ⟨htotal, hmax, hinUse⟩ := hw.sums p
    simp only [Pool.status] at htotal hmax hinUse
    show (w.pool p).inUse < (w.pool p).config.maxConnections
    omega
  have hacquire : acquire p (w.pool p).idle w = v.extend p := by
    rw [← w.passedOver_append_remaining p, hr, h.search, World.acquire]
  have hpoised := h.poised hw hr hvp
  have hsources : ((v.updatePool p Pool.takeSlot).pool p).sources = (w.pool p).sources :=
    read_congr hpoised.books Pool.sources fun _ => rfl
  have hconfig : ((v.updatePool p Pool.takeSlot).pool p).config = (w.pool p).config :=
    read_congr hpoised.books Pool.config fun _ => rfl
  have hnext : (v.updatePool p Pool.takeSlot).connections.next = w.connections.next := by
    rw [Registry.next, Registry.next, hpoised.size]
  rcases (v.updatePool p Pool.takeSlot).openConnection_cases p with ⟨due, error, ⟨hdue, rfl⟩, hu⟩
    | ⟨sources, error, ⟨hreached, hrefused⟩, hu⟩
    | ⟨u', chain, sources, number, ⟨hreached, hmade, rfl⟩, -, hnames, hu⟩
  · rw [checkOut_of_acquire_error hopen (hacquire.trans (extend_error hlimit hu))]
    exact hpoised.unreachable h hw hplug hr hdue
  · obtain ⟨name, rfl⟩ := ConnectionPool.Source.attemptAll_error hrefused
    rw [checkOut_of_acquire_error hopen (hacquire.trans (extend_error hlimit hu))]
    exact hpoised.refuses h hw hplug hr hreached hrefused
  · rw [checkOut_of_acquire_ok hopen (hacquire.trans (extend_ok hlimit hu)), hnext]
    exact hpoised.joined.opens h hw hplug hr (hpoised.faults ▸ hreached) (hsources ▸ hmade)
      (hconfig ▸ hnames)

/-- **A checkout of an open pool with room** is not refused. -/
theorem Balanced.supplies_checkOut (hw : w.Balanced out) (hplug : w.Plugged raw)
    (hopen : (w.pool p).closed = false)
    (hroom : w.taken out p ≠ (w.pool p).config.maxConnections) :
    Supplies p w (w.checkOut p).1 (w.checkOut p).2 := by
  obtain ⟨v, h⟩ := searchedTo_remaining hw hplug (w.known_of_pool_open hopen)
  cases hr : w.remaining p with
  | nil => exact (hr ▸ h).extends hw hplug hopen hr hroom
  | cons c rest => exact (hr ▸ h).lends hw hplug hopen hr

/-- **A checkout of a full pool** does nothing. -/
theorem Balanced.checkOut_of_full (hw : w.Balanced out) (hopen : (w.pool p).closed = false)
    (hfull : w.taken out p = (w.pool p).config.maxConnections) :
    w.checkOut p
      = (w, .error (.maxConnectionsReached (w.pool p).config.maxConnections)) := by
  obtain ⟨htotal, hmax, hinUse⟩ := hw.sums p
  simp only [Pool.status] at htotal hmax hinUse
  have hidle : (w.pool p).idle = [] := List.eq_nil_of_length_eq_zero (by omega)
  have hextend := extend_of_full (w := w) (p := p) (by omega)
  exact checkOut_of_acquire_error hopen (by rw [hidle, World.acquire, hextend])

end World

end ConnectionPool
