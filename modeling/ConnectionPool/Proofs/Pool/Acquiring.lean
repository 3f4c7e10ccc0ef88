import ConnectionPool.Proofs.Pool.Returning

/-!
# Checking connections out keeps the books

A checkout takes the connection that it hands out onto the numbers of the pool before anything
can fail, and gives it back when something does. Idle connections that turn out to be invalid are
counted as checked out for the moment in which they are taken out of the pool. In the end the
books are balanced with one more connection checked out, or with none (`World.Acquired`), and the
chain of the connection that is handed out sees the numbers with that connection in them.
-/

set_option autoImplicit false

namespace ConnectionPool

/-- A pool with one more connection in use. -/
def Pool.takeSlot (pool : Pool) : Pool :=
  { pool with total := pool.total + 1, inUse := pool.inUse + 1 }

namespace World

variable {w w' : World} {out : Multiset ConnectionId} {p : PoolId} {c : ConnectionId}
  {raw : PhysicalConnectionId → Prop}

/-! ## Opening a connection -/

/-- **A connection is added to a pool**, and nothing else happens to pools and connections. -/
structure Adds (p : PoolId) (c : ConnectionId) (w w' : World) : Prop where
  fresh : ¬ w.connections.Known c
  known : ∀ d, w'.connections.Known d ↔ w.connections.Known d ∨ d = c
  old : ∀ d, w.connections.Known d → w'.connection d = w.connection d
  lines : ∀ line, w.driver.connections.Known line → w'.driver.connections.Known line
    ∧ w'.driver.connection line = w.driver.connection line
  line : ¬ w.driver.connections.Known (w'.connection c).physical
  waiting : w'.Waiting p c
  line_known : w'.driver.connections.Known (w'.connection c).physical
  pools : w'.pools.size = w.pools.size
  idle : ∀ q, (w'.pool q).idle = (w.pool q).idle
  status : ∀ q, (w'.pool q).status = (w.pool q).status
  journal : w'.journal = w.journal

/-- The driver's connections that a change spares. -/
theorem sparesAll_driver {driver : Driver} (w : World)
    (hs : w.driver.connections.size ≤ driver.connections.size)
    (hl : ∀ line, (w.driver.connection line).closed = false →
      (driver.connection line).closed = false) : SparesAll w { w with driver } :=
  { Spares.refl w with
    lines := hs
    live := fun _ _ h => ⟨h.known, h.unclosed, hl _ h.line⟩ }

theorem sparesAll_updatePool (w : World) (p : PoolId) {f : Pool → Pool}
    (hi : ∀ pool, (f pool).idle = pool.idle) (hs : ∀ pool, (f pool).status = pool.status)
    (hc : ∀ pool, (f pool).config = pool.config) : SparesAll w (w.updatePool p f) :=
  { Spares.refl w with
    idle := w.pool_updatePool_congr p f Pool.idle hi
    status := w.pool_updatePool_congr p f Pool.status hs
    config := w.pool_updatePool_congr p f Pool.config hc
    live := fun _ _ h => h.updatePool _ _ }

theorem known_line {line : PhysicalConnectionId} {driver : Driver}
    (h : (driver.connection line).closed = false) : driver.connections.Known line := by
  by_contra hk
  rw [Driver.connection, Registry.get_of_not_known hk] at h
  cases h

/-- A new connection of the driver does nothing to those that there are. -/
theorem connection_openConnection (driver : Driver) {line : PhysicalConnectionId}
    (h : driver.connections.Known line) :
    driver.openConnection.1.connection line = driver.connection line :=
  Registry.get_register_of_known _ h

theorem sparesAll_openLine (w : World) :
    SparesAll w { w with driver := w.driver.openConnection.1 } := by
  apply sparesAll_driver
  · exact (Registry.size_register _ _).ge.trans' (Nat.le_succ _)
  · intro line hl
    rw [connection_openConnection _ (known_line hl)]
    exact hl

theorem sparesAll_closeLine (w : World) {line : PhysicalConnectionId}
    (h : ∀ d, w.connections.Known d → (w.connection d).physical ≠ line) :
    SparesAll w { w with driver := w.driver.closeConnection line } :=
  { Spares.refl w with
    lines := (Driver.size_connections_closeConnection _ _).ge
    live := fun d _ hl => ⟨hl.known, hl.unclosed, by
      show ((w.driver.closeConnection line).connection (w.connection d).physical).closed = false
      rw [Driver.closed_closeConnection, hl.line,
        decide_eq_false fun he => h d hl.known he.symm, Bool.or_false]⟩ }

/-- The world once a connection was opened for a pool. -/
def enlist (w : World) (p : PoolId) (number : Nat) (chain : List Interceptor) : World :=
  { w with
    driver := w.driver.openConnection.1
    connections := w.connections.register
      { pool := p
        physical := w.driver.connections.next
        metadata := .opened number w.now
        chain } }

theorem connection_enlist (w : World) (p : PoolId) (number : Nat) (chain : List Interceptor) :
    (w.enlist p number chain).connection w.connections.next
      = { pool := p, physical := w.driver.connections.next, metadata := .opened number w.now,
          chain } :=
  Registry.get_register_next _ _

/-- A connection that is opened for a pool is added to it. -/
theorem adds_enlist (w : World) (p : PoolId) (number : Nat) (chain : List Interceptor) :
    Adds p w.connections.next w (w.enlist p number chain) := by
  have hnew := w.connection_enlist p number chain
  have hline : (w.enlist p number chain).driver.connection w.driver.connections.next = {} :=
    Registry.get_register_next _ _
  have hknown : ∀ d, (w.enlist p number chain).connections.Known d
      ↔ w.connections.Known d ∨ d = w.connections.next := Registry.known_register _ _
  exact
    { fresh := w.connections.not_known_next
      known := hknown
      old := fun d hd => Registry.get_register_of_known _ hd
      lines := fun line hl => ⟨(Registry.known_register _ _ _).mpr (Or.inl hl),
        connection_openConnection _ hl⟩
      line := by
        rw [hnew]
        exact w.driver.connections.not_known_next
      waiting :=
        { pool := by rw [hnew]
          live := ⟨(hknown _).mpr (Or.inr rfl), by rw [hnew], by rw [hnew, hline]⟩
          state := by rw [hnew]; rfl }
      line_known := by
        rw [hnew]
        exact (Registry.known_register _ _ _).mpr (Or.inr rfl)
      pools := rfl
      idle := fun _ => rfl
      status := fun _ => rfl
      journal := rfl }

/-- Books that are written when a connection was added. -/
theorem Adds.updatePool {q : PoolId} (h : Adds p c w w') (f : Pool → Pool)
    (hi : ∀ pool, (f pool).idle = pool.idle) (hs : ∀ pool, (f pool).status = pool.status) :
    Adds p c w (w'.updatePool q f) :=
  { h with
    waiting := ⟨h.waiting.pool, h.waiting.live.updatePool q f, h.waiting.state⟩
    pools := (Registry.size_modify _ _ _).trans h.pools
    idle := fun r => (w'.pool_updatePool_congr q f Pool.idle hi r).trans (h.idle r)
    status := fun r => (w'.pool_updatePool_congr q f Pool.status hs r).trans (h.status r) }

/-- **Opening a connection** for a pool adds one, or spares everything. -/
theorem opens (hw : w.Plugged raw) (p : PoolId) :
    (SparesAll w (w.openConnection p).1 ∧ (w.openConnection p).1.journal = w.journal
      ∧ (w.openConnection p).1.pools.size = w.pools.size
      ∧ ∃ error, (w.openConnection p).2 = .error error)
    ∨ ∃ c, (w.openConnection p).2 = .ok c ∧ Adds p c w (w.openConnection p).1 := by
  obtain ⟨due, error, -, h⟩ | ⟨sources, error, -, h⟩ | ⟨v, chain, sources, number, -, -, -, h⟩ :=
    w.openConnection_cases p <;> rw [h]
  · exact Or.inl ⟨sparesAll_driver w (Nat.le_refl _) fun _ => id, rfl, rfl, _, rfl⟩
  · refine Or.inl ⟨?_, rfl, Registry.size_modify _ _ _, error, rfl⟩
    have hopened := w.sparesAll_openLine
    have hapart : ∀ d, w.connections.Known d →
        (w.connection d).physical ≠ w.driver.connections.next :=
      fun d hd he => w.driver.connections.not_known_next (he ▸ hw.known d hd)
    have hclosed := sparesAll_closeLine { w with driver := w.driver.openConnection.1 } hapart
    exact (hopened.trans hclosed).trans
      (sparesAll_updatePool _ p (fun _ => rfl) (fun _ => rfl) fun _ => rfl)
  · -- the caches of the chain are made before the connection is opened
    have hadds : Adds p w.connections.next w
        (({ w with caches := v.caches } : World).enlist p number chain) :=
      { ({ w with caches := v.caches } : World).adds_enlist p number chain with }
    exact Or.inr ⟨_, rfl,
      (hadds.updatePool (fun pool => { pool with sources }) (fun _ => rfl) fun _ => rfl).updatePool
        (fun pool => { pool with opened := number }) (fun _ => rfl) fun _ => rfl⟩

section Adds

theorem Adds.live (h : Adds p c w w') {d : ConnectionId} (hd : w.Live d) : w'.Live d := by
  refine ⟨(h.known d).mpr (Or.inl hd.known), ?_, ?_⟩
  · rw [h.old d hd.known]
    exact hd.unclosed
  · rw [h.old d hd.known, (h.lines _ (known_line hd.line)).2]
    exact hd.line

theorem Adds.plugged (h : Adds p c w w') (hw : w.Plugged raw) : w'.Plugged raw where
  known d hd := by
    rcases (h.known d).mp hd with hd | rfl
    · rw [h.old d hd]
      exact (h.lines _ (hw.known d hd)).1
    · exact h.line_known
  injective d e hd he hline := by
    -- the line of the new connection was not known before, those of the others were
    rcases (h.known d).mp hd with hd | rfl
    · rcases (h.known e).mp he with he | rfl
      · rw [h.old d hd, h.old e he] at hline
        exact hw.injective d e hd he hline
      · rw [h.old d hd] at hline
        exact absurd (hline ▸ hw.known d hd) h.line
    · rcases (h.known e).mp he with he | rfl
      · rw [h.old e he] at hline
        exact absurd (hline ▸ hw.known e he) h.line
      · rfl
  raw_known line hl := (h.lines line (hw.raw_known line hl)).1
  raw_apart line hl d hd := by
    rcases (h.known d).mp hd with hd | rfl
    · rw [h.old d hd]
      exact hw.raw_apart line hl d hd
    · exact fun he => h.line (he ▸ hw.raw_known line hl)

theorem Adds.undisturbed (h : Adds p c w w') (hout : ∀ c ∈ out, w.connections.Known c) :
    Undisturbed out w w' where
  pools q := (Registry.known_congr h.pools q).mpr
  connections d hd := ⟨(h.known d).mpr (Or.inl hd), congrArg Connection.pool (h.old d hd)⟩
  state d hd := congrArg (fun connection => connection.metadata.state) (h.old d (hout d hd))

end Adds

/-! ## Taking a slot for a new connection -/

/-- **What a checkout comes to**: the books are balanced, with one more connection checked out if
one is handed out, and what was seen on the way adds up without it. -/
structure Acquired (raw : PhysicalConnectionId → Prop) (out : Multiset ConnectionId) (p : PoolId)
    (w w' : World) (result : Except PoolError ConnectionId) : Prop where
  balanced : match result with
    | .error _ => w'.Balanced out
    | .ok c => w'.Balanced (c ::ₘ out) ∧ (w'.connection c).pool = p
  plugged : w'.Plugged raw
  undisturbed : Undisturbed out w w'
  heard : Heard (w'.Reports p (w.taken out p) false) w w'

/-- No subtraction is cut off when a slot is taken for a new connection. -/
def CanExtend (w : World) (p : PoolId) : Prop :=
  (w.pool p).total < (w.pool p).config.maxConnections →
    ∀ v error, (w.updatePool p Pool.takeSlot).openConnection p = (v, .error error) → v.CanFree p

theorem Balanced.add (hw : w.Balanced out) (hp : w.pools.Known p)
    (hlimit : (w.pool p).total < (w.pool p).config.maxConnections)
    (h : Adds p c (w.updatePool p Pool.takeSlot) w') : w'.Balanced (c ::ₘ out) := by
  have hidle : ∀ q, (w'.pool q).idle = (w.pool q).idle := fun q =>
    (h.idle q).trans (w.pool_updatePool_congr p Pool.takeSlot Pool.idle (fun _ => rfl) q)
  have hfresh : ∀ d, w.Live d → d ≠ c := by
    rintro d hd rfl
    exact h.fresh hd.known
  have hlive : ∀ d, w.Live d → w'.Live d := fun d hd =>
    h.live (hd.updatePool _ _)
  have hpool : ∀ d ∈ out, (w'.connection d).pool = (w.connection d).pool := fun d hd =>
    congrArg Connection.pool (h.old d (hw.out_live d hd).known)
  have htaken : ∀ q, w'.taken out q = w.taken out q := by
    intro q
    apply Multiset.countP_congr rfl
    intro d hd
    rw [hpool d hd]
  refine
    { sums := fun q => ?_
      out_nodup := Multiset.nodup_cons.mpr
        ⟨fun hc => hfresh c (hw.out_live c hc) rfl, hw.out_nodup⟩
      out_live := fun d hd => ?_
      idle_nodup := fun q => by
        rw [hidle]
        exact hw.idle_nodup q
      waiting := fun q d hd => ?_
      apart := fun q d hd => ?_ }
  · obtain ⟨htotal, hmax, hinUse⟩ := hw.sums q
    by_cases hq : p = q
    · subst hq
      have hself := taken_cons_self w' c out
      rw [h.waiting.pool, htaken] at hself
      rw [h.status, pool_updatePool_self hp, hself]
      simp only [Pool.status] at htotal hinUse
      constructor <;> simp only [Pool.status, Pool.takeSlot] <;> omega
    · have hne := taken_cons_of_ne (w := w') (c := c) (p := q)
        (fun he => hq (h.waiting.pool.symm.trans he)) out
      rw [h.status, pool_updatePool_of_ne hq, hne, htaken]
      exact ⟨htotal, hmax, hinUse⟩
  · rcases Multiset.mem_cons.mp hd with rfl | hd
    · exact h.waiting.live
    · exact hlive d (hw.out_live d hd)
  · rw [hidle] at hd
    obtain ⟨hpool, hdlive, hstate⟩ := hw.waiting q d hd
    have hold : w'.connection d = w.connection d := h.old d hdlive.known
    exact ⟨by rw [hold]; exact hpool, hlive d hdlive, by rw [hold]; exact hstate⟩
  · rw [hidle] at hd
    have hdlive := (hw.waiting q d hd).live
    exact fun hc => (Multiset.mem_cons.mp hc).elim (hfresh d hdlive) (hw.apart q d hd)

theorem extend_ok (hlimit : (w.pool p).total < (w.pool p).config.maxConnections)
    (h : (w.updatePool p Pool.takeSlot).openConnection p = (w', .ok c)) :
    w.extend p = (w', .ok c) := by
  have hopened : (w.updatePool p fun pool =>
      { pool with total := pool.total + 1, inUse := pool.inUse + 1 }).openConnection p
      = (w', .ok c) := h
  simp only [World.extend, if_neg (Nat.not_le.mpr hlimit), hopened]

theorem extend_error (hlimit : (w.pool p).total < (w.pool p).config.maxConnections)
    {error : PoolError}
    (h : (w.updatePool p Pool.takeSlot).openConnection p = (w', .error error)) :
    w.extend p = (w'.freeSlot p, .error error) := by
  have hopened : (w.updatePool p fun pool =>
      { pool with total := pool.total + 1, inUse := pool.inUse + 1 }).openConnection p
      = (w', .error error) := h
  simp only [World.extend, if_neg (Nat.not_le.mpr hlimit), hopened]

theorem extend_of_full (hfull : (w.pool p).config.maxConnections ≤ (w.pool p).total) :
    w.extend p = (w, .error (.maxConnectionsReached (w.pool p).config.maxConnections)) := by
  simp only [World.extend, if_pos hfull]

/-- The numbers of a pool of which a slot was taken. -/
theorem numbers_of_took (hp : w.pools.Known p)
    (h : SparesAll (w.updatePool p Pool.takeSlot) w') :
    (w'.pool p).total = (w.pool p).total + 1 ∧ (w'.pool p).inUse = (w.pool p).inUse + 1 := by
  have hstatus := h.status p
  rw [pool_updatePool_self hp] at hstatus
  exact ⟨congrArg PoolStatus.total hstatus, congrArg PoolStatus.inUse hstatus⟩

/-- A slot that was taken for nothing is given back. -/
theorem sparesAll_giveBack (hp : w.pools.Known p)
    (h : SparesAll (w.updatePool p Pool.takeSlot) w') : SparesAll w (w'.freeSlot p) := by
  have hkept : ∀ {β : Type} (read : Pool → β),
      (∀ pool total inUse, read { pool with total, inUse } = read pool) →
      (∀ q, read (w'.pool q) = read ((w.updatePool p Pool.takeSlot).pool q)) →
      ∀ q, read ((w'.freeSlot p).pool q) = read (w.pool q) := by
    intro β read hr hread q
    calc read ((w'.freeSlot p).pool q)
        = read (w'.pool q) := w'.pool_updatePool_congr p _ read (fun _ => hr _ _ _) q
      _ = read ((w.updatePool p Pool.takeSlot).pool q) := hread q
      _ = read (w.pool q) := w.pool_updatePool_congr p Pool.takeSlot read (fun _ => hr _ _ _) q
  have hstatus : ∀ q, ((w'.freeSlot p).pool q).status = (w.pool q).status := by
    intro q
    have hq' := h.status q
    by_cases hq : p = q
    · subst hq
      obtain ⟨htotal, hinUse⟩ := numbers_of_took hp h
      have hpv : w'.pools.Known p := by
        apply known_of_inUse
        omega
      rw [pool_updatePool_self hp] at hq'
      rw [freeSlot, pool_updatePool_self hpv]
      simp only [Pool.status, Pool.takeSlot, PoolStatus.mk.injEq] at hq' ⊢
      omega
    · rw [freeSlot, pool_updatePool_of_ne hq, hq', pool_updatePool_of_ne hq]
  exact
    { h with
      idle := hkept Pool.idle (fun _ _ _ => rfl) h.idle
      status := hstatus
      config := hkept Pool.config (fun _ _ _ => rfl) h.config
      live := fun c hc hl => by
        have hlive := h.live c hc (hl.updatePool _ _)
        exact hlive.updatePool _ _ }

/-- **Taking a slot for a new connection.** -/
theorem Balanced.extend (hw : w.Balanced out) (hplug : w.Plugged raw) (hp : w.pools.Known p) :
    Acquired raw out p w (w.extend p).1 (w.extend p).2 ∧ w.CanExtend p := by
  have hopens := opens (hplug.updatePool p Pool.takeSlot) p
  obtain ⟨v, result, hv⟩ : ∃ v result,
    (w.updatePool p Pool.takeSlot).openConnection p = (v, result) := ⟨_, _, rfl⟩
  rw [hv] at hopens
  constructor
  · rcases Nat.lt_or_ge (w.pool p).total (w.pool p).config.maxConnections with hlimit | hfull
    · obtain ⟨hspared, hjournal, hsize, error, rfl⟩ | ⟨c, rfl, hadds⟩ := hopens
      · have hback := sparesAll_giveBack hp hspared
        rw [extend_error hlimit hv]
        exact
          { balanced := hw.sparesAll hback
            plugged := hplug.spares hback
            undisturbed := hback.undisturbed ((Registry.size_modify _ _ _).trans
              (hsize.trans (Registry.size_modify _ _ _))) fun _ _ => id
            heard := heard_of_journal hjournal }
      · have hadded : Undisturbed out (w.updatePool p Pool.takeSlot) v :=
          hadds.undisturbed fun c hc => (hw.out_live c hc).known
        rw [extend_ok hlimit hv]
        exact
          { balanced := ⟨hw.add hp hlimit hadds, hadds.waiting.pool⟩
            plugged := hadds.plugged (hplug.updatePool p Pool.takeSlot)
            undisturbed := (undisturbed_updatePool w p _).trans hadded
            heard := heard_of_journal hadds.journal }
    · rw [extend_of_full hfull]
      exact ⟨hw, hplug, .refl w, .refl w⟩
  · intro _ v' error hv'
    rw [hv] at hv'
    obtain ⟨rfl, rfl⟩ := Prod.mk.inj hv'
    obtain ⟨hspared, -⟩ | ⟨c, hc, -⟩ := hopens
    · obtain ⟨htotal, hinUse⟩ : (v.pool p).total = (w.pool p).total + 1
          ∧ (v.pool p).inUse = (w.pool p).inUse + 1 := numbers_of_took hp hspared
      constructor <;> omega
    · exact nomatch hc

/-! ## Handing out -/

/-- No subtraction is cut off while a connection is looked for. -/
def CanAcquire (p : PoolId) : List ConnectionId → World → Prop
  | [], w => w.CanExtend p
  | c :: rest, w =>
      let w := w.updatePool p fun pool => { pool with idle := rest, inUse := pool.inUse + 1 }
      ((w.pool p).config.testOnCheckout && !w.isConnectionValid c) = true →
        w.CanRetire c ∧ CanAcquire p rest (w.retire c)

/-- No subtraction is cut off when a connection is checked out. -/
def CanCheckOut (w : World) (p : PoolId) : Prop :=
  (w.pool p).closed = false → CanAcquire p (w.pool p).idle w

/-- The idle connection that was returned last is taken out of the list. -/
theorem Balanced.take (hw : w.Balanced out) {rest : List ConnectionId}
    (hidle : (w.pool p).idle = c :: rest) :
    (w.updatePool p fun pool => { pool with idle := rest, inUse := pool.inUse + 1 }).Balanced
      (c ::ₘ out) := by
  have hc : c ∈ (w.pool p).idle := by
    rw [hidle]
    exact List.mem_cons_self
  have hwaits := hw.waiting p c hc
  have hrest : ∀ d ∈ rest, d ∈ (w.pool p).idle := fun d hd => by
    rw [hidle]
    exact List.mem_cons_of_mem c hd
  have hnodup := hw.idle_nodup p
  rw [hidle, List.nodup_cons] at hnodup
  have hne : ∀ q, p ≠ q → (w.connection c).pool ≠ q := fun q hq he =>
    hq (hwaits.pool.symm.trans he)
  refine hw.write (known_of_idle hc)
    (Multiset.nodup_cons.mpr ⟨hw.apart p c hc, hw.out_nodup⟩) ?_
    (fun q hq => taken_cons_of_ne (hne q hq) out) ?_ ?_ hnodup.2 ?_
  · intro d hd
    rcases Multiset.mem_cons.mp hd with rfl | hd
    · exact hwaits.live
    · exact hw.out_live d hd
  · intro q hq d hd hmem
    rcases Multiset.mem_cons.mp hmem with rfl | hmem
    · exact hne q hq (hw.waiting q d hd).pool
    · exact hw.apart q d hd hmem
  · obtain ⟨htotal, hlimit, hinUse⟩ := hw.sums p
    have hself := taken_cons_self w c out
    rw [hwaits.pool] at hself
    rw [hself]
    have hlength := congrArg List.length hidle
    rw [List.length_cons] at hlength
    simp only [Pool.status] at htotal hlimit hinUse
    constructor <;> simp only [Pool.status] <;> omega
  · intro d hd
    refine ⟨hw.waiting p d (hrest d hd), fun hmem => ?_⟩
    rcases Multiset.mem_cons.mp hmem with rfl | hmem
    · exact hnodup.1 hd
    · exact hw.apart p d (hrest d hd) hmem

/-- **Looking for a connection to hand out.** The induction is on the idle connections that are
still to be looked at, which are those that the pool has. -/
theorem Balanced.acquire {idle : List ConnectionId} : ∀ {w : World}, w.Balanced out →
    w.Plugged raw → w.pools.Known p → (w.pool p).idle = idle →
    Acquired raw out p w (World.acquire p idle w).1 (World.acquire p idle w).2
      ∧ CanAcquire p idle w := by
  induction idle with
  | nil => exact fun hw hplug hp _ => hw.extend hplug hp
  | cons c rest ih =>
      intro w hw hplug hp hidle
      have hwaits := hw.waiting p c (by rw [hidle]; exact List.mem_cons_self)
      obtain ⟨v, hv⟩ : ∃ v, v = w.updatePool p fun pool =>
        { pool with idle := rest, inUse := pool.inUse + 1 } := ⟨_, rfl⟩
      have hbalanced : v.Balanced (c ::ₘ out) := by
        rw [hv]
        exact hw.take hidle
      have hvplug : v.Plugged raw := by
        rw [hv]
        exact hplug.updatePool p _
      have hundisturbed : Undisturbed out w v := by
        rw [hv]
        exact undisturbed_updatePool w p _
      have hpool : (v.connection c).pool = p := by
        rw [hv]
        exact hwaits.pool
      have hvidle : (v.pool p).idle = rest := by
        rw [hv, pool_updatePool_self hp]
      have hdone := hbalanced.retire hvplug
      rw [hpool] at hdone
      have hknown : ∀ d ∈ out, w.connections.Known d := fun d hd => (hw.out_live d hd).known
      have htaken : v.taken out p = w.taken out p := by rw [hv]; rfl
      have hback : Heard ((v.retire c).Reports p (w.taken out p) false) w (v.retire c) :=
        (heard_of_journal (by rw [hv]; rfl)).trans (htaken ▸ hdone.heard)
      have hretired : ((v.retire c).pool p).idle = rest :=
        (idle_retire hvplug (hbalanced.out_live c (Multiset.mem_cons_self c out)).known p).trans
          hvidle
      have hnext := ih hdone.balanced hdone.plugged
        (hdone.undisturbed.pools p (hundisturbed.pools p hp)) hretired
      have hacquire : World.acquire p (c :: rest) w
          = if (v.pool p).config.testOnCheckout && !v.isConnectionValid c then
              World.acquire p rest (v.retire c)
            else (v, .ok c) := by
        rw [hv]
        rfl
      constructor
      · rw [hacquire]
        split
        · have hacquired := hnext.1
          have hkept := hundisturbed.trans hdone.undisturbed
          exact
            { balanced := hacquired.balanced
              plugged := hacquired.plugged
              undisturbed := hkept.trans hacquired.undisturbed
              heard := (hback.mono fun _ _ _ => hacquired.undisturbed.reports).trans
                (hkept.taken hknown p ▸ hacquired.heard) }
        · exact ⟨⟨hbalanced, hpool⟩, hvplug, hundisturbed, heard_of_journal (by rw [hv]; rfl)⟩
      · rw [CanAcquire, ← hv]
        exact fun _ => ⟨hbalanced.canRetire, hnext.2⟩

/-- **What a successful checkout comes to**: one more connection is checked out, and its chain
sees the numbers of the pool with that connection in them. -/
structure HandedOut (raw : PhysicalConnectionId → Prop) (out : Multiset ConnectionId) (p : PoolId)
    (w w' : World) (c : ConnectionId) : Prop where
  balanced : w'.Balanced (c ::ₘ out)
  state : (w'.connection c).metadata.state = .inUse
  plugged : w'.Plugged raw
  undisturbed : Undisturbed out w w'
  heard : Heard (fun receiver hook sight =>
    w'.Reports p (w.taken out p) false receiver hook sight
      ∨ w'.Reports p (w'.taken (c ::ₘ out) p) true receiver hook sight) w w'

/-- The connection that was acquired is handed out. -/
theorem Acquired.handOut {c : ConnectionId} (h : Acquired raw out p w w' (.ok c)) :
    HandedOut raw out p w ((w'.updateMetadata c fun metadata =>
      metadata.checkOut w'.now).tellChain c (.attached c)) c := by
  obtain ⟨⟨hbalanced, hpool⟩, hplugged, hundisturbed, hheard⟩ := h
  obtain ⟨v, hv⟩ : ∃ v, v = w'.updateMetadata c fun metadata => metadata.checkOut w'.now :=
    ⟨_, rfl⟩
  rw [← hv]
  have hwritten : Spares (· = c) w' v := by
    rw [hv]
    exact w'.spares_updateMetadata c _
  have hvbalanced : v.Balanced (c ::ₘ out) := by
    rw [hv]
    exact hbalanced.updateMetadata (Multiset.mem_cons_self c out) _
  have hknown := (hbalanced.out_live c (Multiset.mem_cons_self c out)).known
  have hstate : (v.connection c).metadata.state = .inUse := by
    rw [hv, World.updateMetadata, connection_updateConnection, if_pos ⟨rfl, hknown⟩]
    rfl
  have hvpool : (v.connection c).pool = p := (hwritten.pool c).trans hpool
  have hnotin : c ∉ out := (Multiset.nodup_cons.mp hbalanced.out_nodup).1
  have htold := unseen_tellChain v c (.attached c)
  have hspared := htold.sparesAll
  have hafter : Undisturbed out w' (v.tellChain c (.attached c)) :=
    (hwritten.undisturbed (by rw [hv]; rfl) fun d hd he => hnotin (he ▸ hd)).trans htold.undisturbed
  refine
    { balanced := hvbalanced.sparesAll hspared
      state := (hspared.state c id).trans hstate
      plugged := (hplugged.spares hwritten).spares hspared
      undisturbed := hundisturbed.trans hafter
      heard := (hheard.mono fun _ _ _ hr => Or.inl (hafter.reports hr)).trans
        ((heard_of_journal (by rw [hv]; rfl)).trans
          ((v.heard_tellChain c (.attached c)).mono fun receiver hook sight hr => Or.inr ?_)) }
  obtain ⟨⟨position, rfl⟩, rfl, hstatus⟩ := hr
  have hsums := hvbalanced.sums p
  rw [hvpool] at hstatus
  rw [← hspared.taken, ← hstatus] at hsums
  exact ⟨⟨(hspared.known c).mpr ((hwritten.known c).mpr hknown), (hspared.pool c).trans hvpool⟩,
    rfl, hsums⟩

/-- A closed pool hands nothing out. -/
theorem checkOut_of_closed (h : (w.pool p).closed = true) :
    w.checkOut p = (w, .error .poolClosed) := by
  rw [checkOut, if_pos h]

/-- A checkout is refused when the pool is closed, it fails when no connection can be acquired, or
the connection that was acquired is handed out. -/
theorem checkOut_cases (w : World) (p : PoolId) :
    ((w.pool p).closed = true ∧ w.checkOut p = (w, .error .poolClosed))
    ∨ ((w.pool p).closed = false ∧ ∃ v error,
      World.acquire p (w.pool p).idle w = (v, .error error) ∧ w.checkOut p = (v, .error error))
    ∨ ((w.pool p).closed = false ∧ ∃ v c,
      World.acquire p (w.pool p).idle w = (v, .ok c) ∧ w.checkOut p
        = ((v.updateMetadata c fun metadata => metadata.checkOut v.now).tellChain c (.attached c),
          .ok c)) := by
  cases hclosed : (w.pool p).closed with
  | true => exact Or.inl ⟨rfl, checkOut_of_closed hclosed⟩
  | false =>
      obtain ⟨v, result, hv⟩ : ∃ v result, World.acquire p (w.pool p).idle w = (v, result) :=
        ⟨_, _, rfl⟩
      cases result with
      | error error =>
          exact Or.inr (Or.inl ⟨rfl, v, error, hv, by simp [World.checkOut, hclosed, hv]⟩)
      | ok c => exact Or.inr (Or.inr ⟨rfl, v, c, hv, by simp [World.checkOut, hclosed, hv]⟩)

/-- What a checkout comes to, by its result. -/
def CheckedOut (raw : PhysicalConnectionId → Prop) (out : Multiset ConnectionId) (p : PoolId)
    (w w' : World) : Except PoolError ConnectionId → Prop
  | .error _ => Done raw out p w w'
  | .ok c => HandedOut raw out p w w' c

/-- **Checking a connection out.** -/
theorem Balanced.checkOut (hw : w.Balanced out) (hplug : w.Plugged raw) (p : PoolId) :
    CheckedOut raw out p w (w.checkOut p).1 (w.checkOut p).2 ∧ w.CanCheckOut p := by
  have hacquire : (w.pool p).closed = false →
      Acquired raw out p w (World.acquire p (w.pool p).idle w).1
        (World.acquire p (w.pool p).idle w).2 ∧ CanAcquire p (w.pool p).idle w :=
    fun hopen => hw.acquire hplug (w.known_of_pool_open hopen) rfl
  refine ⟨?_, fun hopen => (hacquire hopen).2⟩
  obtain ⟨-, hrefused⟩ | ⟨hopen, v, error, hv, hfailed⟩ | ⟨hopen, v, c, hv, hhanded⟩ :=
    w.checkOut_cases p
  · rw [hrefused]
    exact ⟨hw, hplug, .refl w, .refl w⟩
  · have hacquired := (hacquire hopen).1
    rw [hv] at hacquired
    rw [hfailed]
    exact ⟨hacquired.balanced, hacquired.plugged, hacquired.undisturbed, hacquired.heard⟩
  · have hacquired := (hacquire hopen).1
    rw [hv] at hacquired
    rw [hhanded]
    exact hacquired.handOut

/-! ## Starting a pool -/

/-- **A pool that is founded has empty books.** -/
theorem Balanced.founded (hw : w.Balanced out) (config : PoolConfig) (sources : List Source) :
    (w.founded config sources).Balanced out where
  sums q := by
    show ((w.founded config sources).pool q).status.Sums (w.taken out q)
    by_cases hq : w.pools.next = q
    · have hnew : w.pool w.pools.next = default :=
        Registry.get_of_not_known w.pools.not_known_next
      have hnone : w.taken out w.pools.next = 0 := by
        rw [← (hw.sums _).inUse, hnew]
        rfl
      rw [← hq, pool_founded_next, hnone]
      exact ⟨rfl, Nat.zero_le _, rfl⟩
    · rw [w.pool_founded_of_ne config sources hq]
      exact hw.sums q
  out_nodup := hw.out_nodup
  out_live c hc :=
    have hlive := hw.out_live c hc
    ⟨hlive.known, hlive.unclosed, hlive.line⟩
  idle_nodup q := by
    rw [w.idle_founded config sources]
    exact hw.idle_nodup q
  waiting q c hc := by
    rw [w.idle_founded config sources] at hc
    obtain ⟨hpool, hlive, hstate⟩ := hw.waiting q c hc
    exact ⟨hpool, ⟨hlive.known, hlive.unclosed, hlive.line⟩, hstate⟩
  apart q c hc := by
    rw [w.idle_founded config sources] at hc
    exact hw.apart q c hc

/-- **A pool that starts** leaves the books balanced, and its listeners see that it is empty. -/
theorem Balanced.startPool (hw : w.Balanced out) (hplug : w.Plugged raw) (config : PoolConfig) :
    ∃ p, Done raw out p w (w.startPool config).1 := by
  refine ⟨w.pools.next, ?_⟩
  obtain ⟨error, h⟩ | ⟨sources, h⟩ := w.startPool_cases config
  · rw [h]
    exact ⟨hw, hplug, .refl w, .refl w⟩
  · rw [h]
    have hbalanced := hw.founded config sources
    have hfplug : (w.founded config sources).Plugged raw :=
      ⟨hplug.known, hplug.injective, hplug.raw_known, hplug.raw_apart⟩
    have hfounded : Undisturbed out w (w.founded config sources) :=
      { pools := fun q hq => (Registry.known_register _ _ _).mpr (Or.inl hq)
        connections := fun c hc => ⟨hc, rfl⟩
        state := fun _ _ => rfl }
    have htold := unseen_tellListeners (w.founded config sources) w.pools.next .poolStarted
    refine
      { balanced := hbalanced.sparesAll htold.sparesAll
        plugged := hfplug.spares htold.sparesAll
        undisturbed := hfounded.trans htold.undisturbed
        heard := (heard_of_journal rfl).trans
          ((heard_tellListeners (w.founded config sources) w.pools.next .poolStarted).mono
            fun receiver hook sight hr => ?_) }
    obtain ⟨⟨position, rfl⟩, rfl, hstatus⟩ := hr
    exact ⟨rfl, rfl, hstatus ▸ hbalanced.sums w.pools.next⟩

end World

end ConnectionPool
