import ConnectionPool.Proofs.Client.Definitions
import ConnectionPool.Proofs.Client.Unseen
import ConnectionPool.Proofs.Scene.Pooling

/-!
# Worlds that are alike

Two worlds are alike if they differ in nothing but what interceptors keep, the statements of the
driver, and the caches among their interceptors, and if no interceptor does anything with a call
but pass it on or answer it from a cache (`World.Alike`). Whatever is done with a pool leads from
worlds that are alike to worlds that are alike, with the same result.
-/

set_option autoImplicit false

namespace ConnectionPool

/-- The connection apart from its chain and what the chain keeps on it. -/
def Connection.outline (connection : Connection) : Connection :=
  { connection with chain := [], attributes := Attributes.empty }

/-- The pool apart from its interceptors and what they keep on it. -/
def Pool.outline (pool : Pool) : Pool :=
  { pool with
    config := { pool.config with interceptors := [] }
    sources := [], listeners := [], attributes := Attributes.empty }

/-- An interceptor passes every call on, or is a cache. -/
def Interceptor.Clear (interceptor : Interceptor) : Prop :=
  interceptor.role.PassesOn ∨ ∃ k, interceptor.role = .cache k

namespace World

/-- **No interceptor interferes**: caches cannot be made to fail, and everything else passes
calls on. -/
structure Clear (w : World) : Prop where
  caches : ∀ k, (w.cache k).fallible = false
  links : ∀ c, ∀ interceptor ∈ (w.connection c).chain, interceptor.Clear
  definitions : ∀ p, ∀ definition ∈ (w.pool p).config.interceptors, definition.Clear

/-- **Worlds are alike** apart from caches and the driver's statements. -/
structure Alike (v w : World) : Prop where
  now : v.now = w.now
  lines : v.driver.connections = w.driver.connections
  faults : v.driver.faults = w.driver.faults
  connections_size : v.connections.size = w.connections.size
  pools_size : v.pools.size = w.pools.size
  connection : ∀ c, (v.connection c).outline = (w.connection c).outline
  pool : ∀ p, (v.pool p).outline = (w.pool p).outline
  sources : ∀ p, Source.Alike (v.pool p).sources (w.pool p).sources
  clear : v.Clear
  clear' : w.Clear

variable {v v' w w' : World}

theorem Alike.symm (h : v.Alike w) : w.Alike v where
  now := h.now.symm
  lines := h.lines.symm
  faults := h.faults.symm
  connections_size := h.connections_size.symm
  pools_size := h.pools_size.symm
  connection c := (h.connection c).symm
  pool p := (h.pool p).symm
  sources p := (h.sources p).symm
  clear := h.clear'
  clear' := h.clear

/-! ## Changes that cannot be seen -/

theorem Unseen.chain (h : w.Unseen w') (c : ConnectionId) :
    (w'.connection c).chain = (w.connection c).chain :=
  h.read Connection.chain (fun _ => rfl) c

/-- What can be read off a pool apart from its attributes. -/
theorem Unseen.readPool {β : Type} (h : w.Unseen w') (read : Pool → β)
    (hr : ∀ pool : Pool, read pool.exterior = read pool) (p : PoolId) :
    read (w'.pool p) = read (w.pool p) :=
  read_congr (h.pool p) read hr

theorem Clear.unseen (h : w.Clear) (hu : w.Unseen w') : w'.Clear where
  caches k := (hu.fallible k).trans (h.caches k)
  links c := by
    rw [hu.chain c]
    exact h.links c
  definitions p := by
    rw [hu.readPool (fun pool => pool.config.interceptors) (fun _ => rfl) p]
    exact h.definitions p

theorem Alike.unseen (h : v.Alike w) (hu : w.Unseen w') : v.Alike w' where
  now := h.now.trans hu.now.symm
  lines := h.lines.trans hu.lines.symm
  faults := h.faults.trans hu.faults.symm
  connections_size := h.connections_size.trans hu.connections_size.symm
  pools_size := h.pools_size.trans hu.pools_size.symm
  connection c := (h.connection c).trans (hu.read Connection.outline (fun _ => rfl) c).symm
  pool p := (h.pool p).trans (hu.readPool Pool.outline (fun _ => rfl) p).symm
  sources p := by
    rw [hu.readPool Pool.sources (fun _ => rfl) p]
    exact h.sources p
  clear := h.clear
  clear' := h.clear'.unseen hu

/-- What cannot be seen is done to both worlds. -/
theorem Alike.unseen₂ (h : v.Alike w) (hv : v.Unseen v') (hw : w.Unseen w') : v'.Alike w' :=
  ((h.unseen hw).symm.unseen hv).symm

/-! ## Reading -/

namespace Alike

variable (h : v.Alike w)
include h

/-- What can be read off the outline of a connection. -/
theorem read {β : Type} (read : Connection → β)
    (hr : ∀ connection : Connection, read connection.outline = read connection)
    (c : ConnectionId) : read (v.connection c) = read (w.connection c) :=
  read_congr (h.connection c) read hr

/-- What can be read off the outline of a pool. -/
theorem readPool {β : Type} (read : Pool → β)
    (hr : ∀ pool : Pool, read pool.outline = read pool) (p : PoolId) :
    read (v.pool p) = read (w.pool p) :=
  read_congr (h.pool p) read hr

theorem known (c : ConnectionId) : v.connections.Known c ↔ w.connections.Known c :=
  Registry.known_congr h.connections_size c

theorem known_pool (p : PoolId) : v.pools.Known p ↔ w.pools.Known p :=
  Registry.known_congr h.pools_size p

theorem metadata (c : ConnectionId) : (v.connection c).metadata = (w.connection c).metadata :=
  h.read Connection.metadata (fun _ => rfl) c

theorem poolOf (c : ConnectionId) : (v.connection c).pool = (w.connection c).pool :=
  h.read Connection.pool (fun _ => rfl) c

theorem physical (c : ConnectionId) : (v.connection c).physical = (w.connection c).physical :=
  h.read Connection.physical (fun _ => rfl) c

theorem closed (c : ConnectionId) : (v.connection c).closed = (w.connection c).closed :=
  h.read Connection.closed (fun _ => rfl) c

theorem poolClosed (p : PoolId) : (v.pool p).closed = (w.pool p).closed :=
  h.readPool Pool.closed (fun _ => rfl) p

theorem idle (p : PoolId) : (v.pool p).idle = (w.pool p).idle :=
  h.readPool Pool.idle (fun _ => rfl) p

/-! ## Changing one thing -/

/-- The same is done to a pool of both worlds, and nothing to its interceptors. -/
theorem updatePool (p : PoolId) {f : Pool → Pool}
    (hf : ∀ pool : Pool, (f pool).outline = (f pool.outline).outline)
    (hs : ∀ pool : Pool, (f pool).sources = pool.sources)
    (hi : ∀ pool : Pool, (f pool).config.interceptors = pool.config.interceptors) :
    (v.updatePool p f).Alike (w.updatePool p f) := by
  have hclear : ∀ {u : World}, u.Clear → (u.updatePool p f).Clear := fun {u} hu =>
    ⟨hu.caches, hu.links, fun q => by
      rw [u.pool_updatePool_congr p f (fun pool => pool.config.interceptors) hi q]
      exact hu.definitions q⟩
  exact
    { h with
      pools_size := (Registry.size_modify _ _ _).trans (h.pools_size.trans
        (Registry.size_modify _ _ _).symm)
      pool := fun q => by
        rw [pool_updatePool, pool_updatePool]
        by_cases hq : p = q ∧ v.pools.Known q
        · rw [if_pos hq, if_pos ⟨hq.1, (h.known_pool q).mp hq.2⟩, hf, h.pool q, ← hf]
        · rw [if_neg hq, if_neg fun hw => hq ⟨hw.1, (h.known_pool q).mpr hw.2⟩]
          exact h.pool q
      sources := fun q => by
        rw [v.pool_updatePool_congr p f Pool.sources hs q,
          w.pool_updatePool_congr p f Pool.sources hs q]
        exact h.sources q
      clear := hclear h.clear
      clear' := hclear h.clear' }

/-- The same is done to a connection of both worlds, and nothing to its chain. -/
theorem updateConnection (c : ConnectionId) {f : Connection → Connection}
    (hf : ∀ connection : Connection, (f connection).outline = (f connection.outline).outline)
    (hl : ∀ connection : Connection, (f connection).chain = connection.chain) :
    (v.updateConnection c f).Alike (w.updateConnection c f) := by
  have hclear : ∀ {u : World}, u.Clear → (u.updateConnection c f).Clear := fun {u} hu =>
    ⟨hu.caches, fun d => by
      rw [u.connection_updateConnection_congr c f Connection.chain hl d]
      exact hu.links d, hu.definitions⟩
  exact
    { h with
      connections_size := (Registry.size_modify _ _ _).trans (h.connections_size.trans
        (Registry.size_modify _ _ _).symm)
      connection := fun d => by
        rw [connection_updateConnection, connection_updateConnection]
        by_cases hd : c = d ∧ v.connections.Known d
        · rw [if_pos hd, if_pos ⟨hd.1, (h.known d).mp hd.2⟩, hf, h.connection d, ← hf]
        · rw [if_neg hd, if_neg fun hw => hd ⟨hw.1, (h.known d).mpr hw.2⟩]
          exact h.connection d
      clear := hclear h.clear
      clear' := hclear h.clear' }

theorem updateMetadata (c : ConnectionId) (f : Metadata → Metadata) :
    (v.updateMetadata c f).Alike (w.updateMetadata c f) :=
  h.updateConnection c (fun _ => rfl) fun _ => rfl

theorem tellChain (c : ConnectionId) (hook : Hook) :
    (v.tellChain c hook).Alike (w.tellChain c hook) :=
  h.unseen₂ (v.unseen_tellChain c hook) (w.unseen_tellChain c hook)

theorem tellListeners (p : PoolId) (hook : Hook) :
    (v.tellListeners p hook).Alike (w.tellListeners p hook) :=
  h.unseen₂ (v.unseen_tellListeners p hook) (w.unseen_tellListeners p hook)

/-- The driver's connections and faults change in the same way. -/
theorem driver {driver driver' : Driver} (hl : driver.connections = driver'.connections)
    (hf : driver.faults = driver'.faults) :
    ({ v with driver := driver } : World).Alike { w with driver := driver' } :=
  { h with
    lines := hl, faults := hf
    clear := ⟨h.clear.caches, h.clear.links, h.clear.definitions⟩
    clear' := ⟨h.clear'.caches, h.clear'.links, h.clear'.definitions⟩ }

end Alike

/-! ## The driver's connections -/

theorem connections_closeConnection_congr {d d' : Driver} (h : d.connections = d'.connections)
    (line : PhysicalConnectionId) :
    (d.closeConnection line).connections = (d'.closeConnection line).connections := by
  unfold Driver.closeConnection Driver.connection
  rw [h]
  split
  · exact h
  · rfl

theorem faults_closeConnection (d : Driver) (line : PhysicalConnectionId) :
    (d.closeConnection line).faults = d.faults := by
  unfold Driver.closeConnection
  split
  · rfl
  · rfl

namespace Alike

variable (h : v.Alike w)
include h

theorem isConnectionValid (c : ConnectionId) : v.isConnectionValid c = w.isConnectionValid c := by
  rw [World.isConnectionValid, World.isConnectionValid, h.closed c, h.physical c, Driver.isValid,
    Driver.isValid, Driver.connection, Driver.connection, h.lines, h.faults]

/-! ## Ending the life of a connection -/

theorem hangUp (c : ConnectionId) : (v.hangUp c).Alike (w.hangUp c) := by
  unfold World.hangUp
  rw [h.closed c, h.physical c]
  split
  · exact h
  · have hclosed : (v.updateConnection c fun connection => { connection with closed := true }).Alike
        (w.updateConnection c fun connection => { connection with closed := true }) :=
      h.updateConnection c (fun _ => rfl) fun _ => rfl
    exact hclosed.driver (connections_closeConnection_congr h.lines _)
      ((faults_closeConnection _ _).trans (h.faults.trans (faults_closeConnection _ _).symm))

theorem teardown (finalizing : Bool) (c : ConnectionId) :
    (World.teardown finalizing v c).Alike (World.teardown finalizing w c) := by
  have hclosing := h.updateMetadata c fun metadata => metadata.enter .closing
  have htold := hclosing.tellChain c (.disconnected c finalizing)
  exact ((htold.hangUp c).tellChain c (.detached c)).updateMetadata c fun metadata =>
    metadata.enter .closed

theorem freeSlot (p : PoolId) : (v.freeSlot p).Alike (w.freeSlot p) :=
  h.updatePool p (fun _ => rfl) (fun _ => rfl) fun _ => rfl

theorem forget (c : ConnectionId) : (v.forget c).Alike (w.forget c) :=
  h.unseen₂ (v.unseen_forget c) (w.unseen_forget c)

/-- What clients share is of no account. -/
theorem setShares (shares shares' : List ConnectionId) :
    ({ v with shares } : World).Alike { w with shares := shares' } :=
  { h with
    clear := ⟨h.clear.caches, h.clear.links, h.clear.definitions⟩
    clear' := ⟨h.clear'.caches, h.clear'.links, h.clear'.definitions⟩ }

theorem share (c : ConnectionId) : (v.share c).Alike (w.share c) := h.setShares _ _

theorem unshare (c : ConnectionId) : (v.unshare c).Alike (w.unshare c) :=
  (h.setShares _ _).forget c

theorem retire (c : ConnectionId) : (v.retire c).Alike (w.retire c) := by
  unfold World.retire
  rw [h.poolOf c]
  exact ((h.freeSlot _).teardown false c).forget c

theorem checkIn (c : ConnectionId) : (v.checkIn c).Alike (w.checkIn c) := by
  unfold World.checkIn
  simp only [h.poolOf c, h.poolClosed, h.metadata c, h.now]
  split
  · exact h.retire c
  · have hrecord := h.updateMetadata c fun metadata => metadata.checkIn w.now
    exact hrecord.updatePool _ (by intro _; rfl) (by intro _; rfl) (by intro _; rfl)

/-- What keeps worlds alike for every element of a list keeps them so for the list. -/
theorem foldl {α : Type} {f : World → α → World}
    (hf : ∀ {v w : World} (a : α), v.Alike w → (f v a).Alike (f w a)) (l : List α) :
    (l.foldl f v).Alike (l.foldl f w) := by
  induction l generalizing v w with
  | nil => exact h
  | cons a l ih => exact ih (hf a h)

theorem isExpired (p : PoolId) (c : ConnectionId) : v.isExpired p c = w.isExpired p c := by
  have hidle := h.readPool (fun pool => pool.config.idleTimeout) (fun _ => rfl) p
  have hlife := h.readPool (fun pool => pool.config.maxLifetime) (fun _ => rfl) p
  simp only [World.isExpired, h.metadata c, h.now, hidle, hlife]

theorem sweep (p : PoolId) :
    (v.sweep p).1.Alike (w.sweep p).1 ∧ (v.sweep p).2 = (w.sweep p).2 := by
  have hexpired : v.expired p = w.expired p := by
    rw [World.expired, World.expired, h.idle p]
    exact congrArg (fun test => ((w.pool p).idle.filter test).reverse) (funext (h.isExpired p))
  have htest : (fun c => !v.isExpired p c) = fun c => !w.isExpired p c :=
    funext fun c => congrArg not (h.isExpired p c)
  simp only [World.sweep, hexpired, htest]
  refine ⟨(foldl ?_ (fun c h => h.teardown false c) _).foldl (fun c h => h.forget c) _, trivial⟩
  exact h.updatePool p (by intro _; rfl) (by intro _; rfl) (by intro _; rfl)

theorem shutDown (p : PoolId) : (v.shutDown p).Alike (w.shutDown p) := by
  simp only [World.shutDown, h.poolClosed p, h.idle p]
  split
  · exact h
  · refine ((foldl ?_ (fun c h => h.teardown true c) _).tellListeners p _).foldl
      (fun c h => h.forget c) _
    exact h.updatePool p (by intro _; rfl) (by intro _; rfl) (by intro _; rfl)

/-! ## Opening connections -/

theorem connect :
    (v.onDriver Driver.connect).1.Alike (w.onDriver Driver.connect).1
      ∧ (v.onDriver Driver.connect).2 = (w.onDriver Driver.connect).2 := by
  have hfaults := congrArg Faults.connect h.faults
  simp only [World.onDriver, Driver.connect]
  rw [hfaults]
  cases w.driver.faults.connect with
  | zero =>
      refine ⟨h.driver ?_ h.faults, ?_⟩
      · exact congrArg (Registry.register · {}) h.lines
      · exact congrArg (fun connections => Except.ok connections.next) h.lines
  | succ due =>
      refine ⟨h.driver h.lines ?_, rfl⟩
      exact congrArg (fun faults : Faults => { faults with connect := due }) h.faults

/-- The sources of a pool are written. -/
theorem setSources (p : PoolId) {sources sources' : List Source}
    (hs : Source.Alike sources sources') :
    (v.updatePool p fun pool => { pool with sources }).Alike
      (w.updatePool p fun pool => { pool with sources := sources' }) := by
  have houtline : ∀ (u : World) (l : List Source) (q : PoolId),
      ((u.updatePool p fun pool => { pool with sources := l }).pool q).outline
        = (u.pool q).outline := fun u l =>
    u.pool_updatePool_congr p (fun pool => { pool with sources := l }) Pool.outline fun _ => rfl
  have hclear : ∀ {u : World} (l : List Source), u.Clear →
      (u.updatePool p fun pool => { pool with sources := l }).Clear := fun {u} l hu =>
    ⟨hu.caches, hu.links, fun q => by
      rw [u.pool_updatePool_congr p (fun pool => { pool with sources := l })
        (fun pool => pool.config.interceptors) (fun _ => rfl) q]
      exact hu.definitions q⟩
  exact
    { h with
      pools_size := (Registry.size_modify _ _ _).trans (h.pools_size.trans
        (Registry.size_modify _ _ _).symm)
      pool := fun q => (houtline v sources q).trans ((h.pool q).trans (houtline w sources' q).symm)
      sources := fun q => by
        rw [pool_updatePool, pool_updatePool]
        by_cases hq : p = q ∧ v.pools.Known q
        · rw [if_pos hq, if_pos ⟨hq.1, (h.known_pool q).mp hq.2⟩]
          exact hs
        · rw [if_neg hq, if_neg fun hw => hq ⟨hw.1, (h.known_pool q).mpr hw.2⟩]
          exact h.sources q
      clear := hclear sources h.clear
      clear' := hclear sources' h.clear' }

/-- A connection is added to both worlds. -/
theorem register {connection connection' : Connection}
    (ho : connection.outline = connection'.outline)
    (hl : ∀ interceptor ∈ connection.chain, interceptor.Clear)
    (hl' : ∀ interceptor ∈ connection'.chain, interceptor.Clear) :
    ({ v with connections := v.connections.register connection } : World).Alike
      { w with connections := w.connections.register connection' } := by
  have hnext : v.connections.next = w.connections.next := congrArg (· + 1) h.connections_size
  have hclear : ∀ {u : World} {new : Connection}, u.Clear →
      (∀ interceptor ∈ new.chain, interceptor.Clear) →
      ({ u with connections := u.connections.register new } : World).Clear := by
    intro u new hu hnew
    refine ⟨hu.caches, fun c interceptor hi => ?_, hu.definitions⟩
    change interceptor ∈ ((u.connections.register new).get c).chain at hi
    rw [Registry.get_register] at hi
    split at hi
    · exact hnew interceptor hi
    · exact hu.links c interceptor hi
  refine { h with
    connections_size := ?_, connection := fun c => ?_, clear := hclear h.clear hl
    clear' := hclear h.clear' hl' }
  · show (v.connections.register connection).size = (w.connections.register connection').size
    rw [Registry.size_register, Registry.size_register, h.connections_size]
  · show ((v.connections.register connection).get c).outline
      = ((w.connections.register connection').get c).outline
    rw [Registry.get_register, Registry.get_register, hnext]
    split
    · exact ho
    · exact h.connection c

end Alike

/-- What is made from definitions that do not interfere does not interfere. -/
theorem clear_makeInterceptors {definitions : List Definition}
    (hd : ∀ definition ∈ definitions, definition.Clear) : ∀ w : World, w.Clear →
    (w.makeInterceptors definitions).1.Clear
      ∧ ∀ interceptor ∈ (w.makeInterceptors definitions).2, interceptor.Clear := by
  induction definitions with
  | nil => exact fun _ hw => ⟨hw, fun _ h => nomatch h⟩
  | cons definition rest ih =>
      intro w hw
      have hrest := ih fun d hm => hd d (List.mem_cons_of_mem _ hm)
      have hfirst : (w.makeInterceptor definition).1.Clear
          ∧ (w.makeInterceptor definition).2.Clear := by
        obtain ⟨name, role, properties, refusals⟩ := definition
        rcases hd _ List.mem_cons_self with hpass | hrole
        · cases role with
          | cache fallible => exact absurd hpass id
          | _ => exact ⟨hw, Or.inl hpass⟩
        · cases hrole
          refine ⟨⟨fun k => ?_, hw.links, hw.definitions⟩, Or.inr ⟨_, rfl⟩⟩
          show ((w.caches.register _).get k).fallible = false
          rw [Registry.get_register]
          split
          · rfl
          · exact hw.caches k
      refine ⟨(hrest _ hfirst.1).1, fun interceptor hm => ?_⟩
      rcases List.mem_cons.mp hm with rfl | hm
      · exact hfirst.2
      · exact (hrest _ hfirst.1).2 interceptor hm

namespace Alike

variable (h : v.Alike w)
include h

/-- The interceptors of both worlds are made from definitions that do not interfere. -/
theorem makeInterceptors {definitions definitions' : List Definition}
    (hd : ∀ definition ∈ definitions, definition.Clear)
    (hd' : ∀ definition ∈ definitions', definition.Clear) :
    (v.makeInterceptors definitions).1.Alike (w.makeInterceptors definitions').1 := by
  have hclear := (clear_makeInterceptors hd v h.clear).1
  have hclear' := (clear_makeInterceptors hd' w h.clear').1
  rw [v.makeInterceptors_eq definitions] at hclear ⊢
  rw [w.makeInterceptors_eq definitions'] at hclear' ⊢
  exact { h with clear := hclear, clear' := hclear' }

theorem openConnection (p : PoolId) :
    (v.openConnection p).1.Alike (w.openConnection p).1
      ∧ (v.openConnection p).2 = (w.openConnection p).2 := by
  obtain ⟨hdial, hline⟩ := h.connect
  simp only [World.openConnection]
  generalize v.onDriver Driver.connect = dialled at hdial hline ⊢
  generalize w.onDriver Driver.connect = dialled' at hdial hline ⊢
  obtain ⟨v₁, line⟩ := dialled
  obtain ⟨w₁, line'⟩ := dialled'
  cases hline
  cases line with
  | error error => exact ⟨hdial, rfl⟩
  | ok line =>
      obtain ⟨hsources, hverdict⟩ := (hdial.sources p).attemptAll
      have hattempted := hdial.setSources p hsources
      simp only
      rw [hverdict]
      generalize (v₁.updatePool p fun pool =>
        { pool with sources := (Source.attemptAll (v₁.pool p).sources).1 }) = v₂ at hattempted ⊢
      generalize (w₁.updatePool p fun pool =>
        { pool with sources := (Source.attemptAll (w₁.pool p).sources).1 }) = w₂ at hattempted ⊢
      cases (Source.attemptAll (w₁.pool p).sources).2 with
      | error error =>
          refine ⟨hattempted.driver (connections_closeConnection_congr hattempted.lines _) ?_, rfl⟩
          exact (faults_closeConnection _ _).trans
            (hattempted.faults.trans (faults_closeConnection _ _).symm)
      | ok _ =>
          have hmade := hattempted.makeInterceptors (hattempted.clear.definitions p)
            (hattempted.clear'.definitions p)
          have hlinks := (clear_makeInterceptors (hattempted.clear.definitions p) v₂
            hattempted.clear).2
          have hlinks' := (clear_makeInterceptors (hattempted.clear'.definitions p) w₂
            hattempted.clear').2
          simp only
          generalize v₂.makeInterceptors (v₂.pool p).config.interceptors = made
            at hmade hlinks ⊢
          generalize w₂.makeInterceptors (w₂.pool p).config.interceptors = made'
            at hmade hlinks' ⊢
          obtain ⟨v₃, chain⟩ := made
          obtain ⟨w₃, chain'⟩ := made'
          simp only at hmade hlinks hlinks' ⊢
          have hopened := hmade.readPool Pool.opened (fun _ => rfl) p
          have hnext : v₃.connections.next = w₃.connections.next :=
            congrArg (· + 1) hmade.connections_size
          rw [hopened, hnext]
          have hregistered : ({ v₃ with connections := v₃.connections.register {
                pool := p, physical := line
                metadata := .opened ((w₃.pool p).opened + 1) v₃.now, chain } } : World).Alike
              { w₃ with connections := w₃.connections.register {
                pool := p, physical := line
                metadata := .opened ((w₃.pool p).opened + 1) w₃.now, chain := chain' } } := by
            refine hmade.register ?_ hlinks hlinks'
            rw [hmade.now]
            rfl
          refine ⟨?_, rfl⟩
          exact hregistered.updatePool p (by intro _; rfl) (by intro _; rfl) (by intro _; rfl)

theorem extend (p : PoolId) :
    (v.extend p).1.Alike (w.extend p).1 ∧ (v.extend p).2 = (w.extend p).2 := by
  have hlimit := h.readPool (fun pool => pool.config.maxConnections) (fun _ => rfl) p
  have htotal := h.readPool Pool.total (fun _ => rfl) p
  simp only [World.extend, hlimit, htotal]
  split
  · exact ⟨h, rfl⟩
  · have hslot : (v.updatePool p fun pool =>
        { pool with total := pool.total + 1, inUse := pool.inUse + 1 }).Alike
        (w.updatePool p fun pool =>
          { pool with total := pool.total + 1, inUse := pool.inUse + 1 }) :=
      h.updatePool p (fun _ => rfl) (fun _ => rfl) fun _ => rfl
    obtain ⟨hopened, hresult⟩ := hslot.openConnection p
    generalize (v.updatePool p _).openConnection p = opened at hopened hresult ⊢
    generalize (w.updatePool p _).openConnection p = opened' at hopened hresult ⊢
    obtain ⟨v₁, result⟩ := opened
    obtain ⟨w₁, result'⟩ := opened'
    cases hresult
    cases result with
    | ok c => exact ⟨hopened, rfl⟩
    | error error => exact ⟨hopened.freeSlot p, rfl⟩

theorem acquire (p : PoolId) (idle : List ConnectionId) :
    (World.acquire p idle v).1.Alike (World.acquire p idle w).1
      ∧ (World.acquire p idle v).2 = (World.acquire p idle w).2 := by
  induction idle generalizing v w with
  | nil => exact h.extend p
  | cons c rest ih =>
      have htaken : (v.updatePool p fun pool =>
          { pool with idle := rest, inUse := pool.inUse + 1 }).Alike
          (w.updatePool p fun pool =>
            { pool with idle := rest, inUse := pool.inUse + 1 }) :=
        h.updatePool p (fun _ => rfl) (fun _ => rfl) fun _ => rfl
      have htest := htaken.readPool (fun pool => pool.config.testOnCheckout) (fun _ => rfl) p
      simp only [World.acquire, htest, htaken.isConnectionValid c]
      split
      · exact ih (htaken.retire c)
      · exact ⟨htaken, rfl⟩

/-- **A checkout** of worlds that are alike has the same result. -/
theorem checkOut (p : PoolId) :
    (v.checkOut p).1.Alike (w.checkOut p).1 ∧ (v.checkOut p).2 = (w.checkOut p).2 := by
  simp only [World.checkOut, h.poolClosed p, h.idle p]
  split
  · exact ⟨h, rfl⟩
  · obtain ⟨hacquired, hresult⟩ := h.acquire p (w.pool p).idle
    generalize World.acquire p (w.pool p).idle v = acquired at hacquired hresult ⊢
    generalize World.acquire p (w.pool p).idle w = acquired' at hacquired hresult ⊢
    obtain ⟨v₁, result⟩ := acquired
    obtain ⟨w₁, result'⟩ := acquired'
    cases hresult
    cases result with
    | error error => exact ⟨hacquired, rfl⟩
    | ok c =>
        refine ⟨?_, rfl⟩
        have hrecord := hacquired.updateMetadata c fun metadata => metadata.checkOut v₁.now
        simp only
        rw [← hacquired.now]
        exact hrecord.tellChain c _

/-! ## Starting pools -/

/-- A pool is added to both worlds. -/
theorem registerPool {pool pool' : Pool} (ho : pool.outline = pool'.outline)
    (hs : Source.Alike pool.sources pool'.sources)
    (hd : ∀ definition ∈ pool.config.interceptors, definition.Clear)
    (hd' : ∀ definition ∈ pool'.config.interceptors, definition.Clear) :
    ({ v with pools := v.pools.register pool } : World).Alike
      { w with pools := w.pools.register pool' } := by
  have hnext : v.pools.next = w.pools.next := congrArg (· + 1) h.pools_size
  have hclear : ∀ {u : World} {new : Pool}, u.Clear →
      (∀ definition ∈ new.config.interceptors, definition.Clear) →
      ({ u with pools := u.pools.register new } : World).Clear := by
    intro u new hu hnew
    refine ⟨hu.caches, hu.links, fun q definition hm => ?_⟩
    change definition ∈ ((u.pools.register new).get q).config.interceptors at hm
    rw [Registry.get_register] at hm
    split at hm
    · exact hnew definition hm
    · exact hu.definitions q definition hm
  refine { h with
    pools_size := ?_, pool := fun q => ?_, sources := fun q => ?_, clear := hclear h.clear hd
    clear' := hclear h.clear' hd' }
  · show (v.pools.register pool).size = (w.pools.register pool').size
    rw [Registry.size_register, Registry.size_register, h.pools_size]
  · show ((v.pools.register pool).get q).outline = ((w.pools.register pool').get q).outline
    rw [Registry.get_register, Registry.get_register, hnext]
    split
    · exact ho
    · exact h.pool q
  · show Source.Alike ((v.pools.register pool).get q).sources
      ((w.pools.register pool').get q).sources
    rw [Registry.get_register, Registry.get_register, hnext]
    split
    · exact hs
    · exact h.sources q

/-- **Starting a pool** from configurations that differ in caches only has the same result. -/
theorem startPool {config config' : PoolConfig} (hc : config.check = config'.check)
    (ho : { config with interceptors := [] } = { config' with interceptors := [] })
    (hs : Source.Alike (config.interceptors.map fun definition => { definition })
      (config'.interceptors.map fun definition => { definition }))
    (hd : ∀ definition ∈ config.interceptors, definition.Clear)
    (hd' : ∀ definition ∈ config'.interceptors, definition.Clear) :
    (v.startPool config).1.Alike (w.startPool config').1
      ∧ (v.startPool config).2 = (w.startPool config').2 := by
  obtain ⟨hsources, hverdict⟩ := hs.attemptAll
  simp only [World.startPool, hc]
  cases config'.check with
  | error error => exact ⟨h, rfl⟩
  | ok _ =>
      simp only
      generalize Source.attemptAll (config.interceptors.map fun definition => { definition })
        = attempted at hsources hverdict ⊢
      generalize Source.attemptAll (config'.interceptors.map fun definition => { definition })
        = attempted' at hsources hverdict ⊢
      obtain ⟨sources, verdict⟩ := attempted
      obtain ⟨sources', verdict'⟩ := attempted'
      cases hverdict
      cases verdict with
      | error error => exact ⟨h, rfl⟩
      | ok _ =>
          have hmade := h.makeInterceptors hd hd'
          simp only
          generalize v.makeInterceptors config.interceptors = made at hmade ⊢
          generalize w.makeInterceptors config'.interceptors = made' at hmade ⊢
          obtain ⟨v₁, listeners⟩ := made
          obtain ⟨w₁, listeners'⟩ := made'
          have hnext : v₁.pools.next = w₁.pools.next := congrArg (· + 1) hmade.pools_size
          simp only at hmade hsources ⊢
          rw [hnext]
          have hregistered : ({ v₁ with
                pools := v₁.pools.register { config, sources, listeners } } : World).Alike
              { w₁ with pools := w₁.pools.register {
                config := config', sources := sources', listeners := listeners' } } := by
            refine hmade.registerPool ?_ hsources hd hd'
            rw [Pool.outline, Pool.outline, ho]
          exact ⟨hregistered.tellListeners _ _, rfl⟩

end Alike

theorem alike_nothing : ({} : World).Alike {} := by
  have hconnection : ∀ c, ({} : World).connection c = default :=
    fun c => Registry.get_of_not_known (Registry.not_known_empty c)
  have hpool : ∀ p, ({} : World).pool p = default :=
    fun p => Registry.get_of_not_known (Registry.not_known_empty p)
  have hcache : ∀ k, ({} : World).cache k = default :=
    fun k => Registry.get_of_not_known (Registry.not_known_empty k)
  have hclear : ({} : World).Clear := by
    refine ⟨fun k => by rw [hcache]; rfl, fun c interceptor hm => ?_, fun p definition hm => ?_⟩
    · rw [hconnection] at hm
      exact nomatch hm
    · rw [hpool] at hm
      exact nomatch hm
  refine ⟨rfl, rfl, rfl, rfl, rfl, fun _ => rfl, fun _ => rfl, fun p => ?_, hclear, hclear⟩
  rw [hpool]
  exact ⟨rfl, fun _ h => (nomatch h), fun _ h => (nomatch h)⟩

end World

end ConnectionPool
