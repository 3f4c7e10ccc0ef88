import ConnectionPool.Proofs.Custody.Moves

/-!
# The operations of pools, move by move

Every operation of a pool is a number of moves, if the books are balanced when it begins: whoever
returns, retires or sweeps connections, closes a pool, or checks a connection out. What is signalled
on the way is given for the operations that hand nothing out; a checkout tells only the connection
that it hands out of it.
-/

set_option autoImplicit false

namespace ConnectionPool

namespace Custody

variable {w : World} {out : Multiset ConnectionId} {lines : PhysicalConnectionId → Prop}
  {p : PoolId} {c : ConnectionId}

/-- The custody in which these connections are in somebody's hands, and no pool is closing. -/
abbrev holding (w : World) (hands : Multiset ConnectionId) (lines : PhysicalConnectionId → Prop) :
    Custody := ⟨w, hands, lines, none⟩

/-! ## Returning and retiring -/

/-- Nothing is signalled when connections are forgotten. -/
theorem Moves.forget {K : Custody} {l : List Signal} {due : Option PoolId}
    (h : Moves K l ⟨w, out, lines, due⟩) (cs : List ConnectionId) :
    Moves K l ⟨cs.foldl World.forget w, out, lines, due⟩ :=
  h.silent (.still (w.deeds_forgetAll cs).still)

/-- **A connection that is retired says farewell.** -/
theorem moves_retire (hl : w.Live c) :
    Moves (holding w (c ::ₘ out) lines) ((w.connection c).farewell c false)
      (holding (w.retire c) out lines) := by
  have hfree : Move (holding w (c ::ₘ out) lines) []
      (holding (w.freeSlot (w.connection c).pool) (c ::ₘ out) lines) :=
    .write _ (fun _ => rfl) (fun _ => rfl) fun _ => rfl
  have htear : Move (holding (w.freeSlot (w.connection c).pool) (c ::ₘ out) lines)
      ((w.connection c).farewell c false)
      (holding (World.teardown false (w.freeSlot (w.connection c).pool) c) out lines) :=
    .tearDown false rfl (hl.updatePool _ _)
  exact (Moves.head hfree htear.moves).forget [c]

/-- **A connection that is returned** is put back into its pool, or retired. -/
theorem moves_checkIn (hl : w.Live c) :
    ∃ l, Moves (holding w (c ::ₘ out) lines) l (holding (w.checkIn c) out lines) := by
  unfold World.checkIn
  simp only
  split
  · exact ⟨_, moves_retire hl⟩
  · next hopen =>
      rw [Bool.not_eq_true, Bool.or_eq_false_iff] at hopen
      obtain ⟨f, hf⟩ : ∃ f : Pool → Pool, f = fun pool =>
        { pool with inUse := pool.inUse - 1, idle := c :: pool.idle } := ⟨_, rfl⟩
      have hput : Move (holding w (c ::ₘ out) lines) []
          (holding ((w.updateMetadata c fun metadata =>
            metadata.checkIn w.now).updatePool (w.connection c).pool f) out lines) :=
        .putBack rfl hl hopen.1 (by rw [hf]; exact fun _ => rfl) (by rw [hf]; exact fun _ => rfl)
          (by rw [hf]; exact fun _ => rfl)
      rw [hf] at hput
      exact ⟨[], hput.moves⟩

/-! ## Tearing down several -/

/-- A connection that is torn down leaves the others as they are. -/
theorem farewell_teardown {d : ConnectionId} (hl : w.Live c) (hd : d ≠ c)
    (finalizing finalizing' : Bool) :
    ((World.teardown finalizing w c).connection d).farewell d finalizing'
      = (w.connection d).farewell d finalizing' := by
  have hother := (World.tornDown_teardown hl finalizing).alters.other d hd
  exact read_congr hother (fun connection => connection.farewell d finalizing') fun _ => rfl

/-- **Connections that are torn down one after the other** say farewell one after the other. -/
theorem moves_teardownAll (finalizing : Bool) (out : Multiset ConnectionId)
    (due : Option PoolId) {l : List ConnectionId} :
    ∀ {w : World}, w.Plugged lines → l.Nodup → (∀ c ∈ l, w.Live c) →
      Moves ⟨w, ↑l + out, lines, due⟩ (l.flatMap fun c => (w.connection c).farewell c finalizing)
        ⟨l.foldl (World.teardown finalizing) w, out, lines, due⟩ := by
  induction l with
  | nil =>
      intro w _ _ _
      rw [show ((([] : List ConnectionId) : Multiset ConnectionId) + out) = out from
        Multiset.zero_add out]
      exact .refl
  | cons c rest ih =>
      intro w hp hnodup hlive
      obtain ⟨hc, hnodup⟩ := List.nodup_cons.mp hnodup
      have hl := hlive c List.mem_cons_self
      have hspared := World.spares_teardown hp hl.known finalizing
      have hne : ∀ d ∈ rest, d ≠ c := fun d hd he => hc (he ▸ hd)
      have hrest := ih (w := World.teardown finalizing w c) (hp.spares hspared) hnodup
        fun d hd => hspared.live d (hne d hd) (hlive d (List.mem_cons_of_mem c hd))
      have hsame : (rest.flatMap fun d =>
            ((World.teardown finalizing w c).connection d).farewell d finalizing)
          = rest.flatMap fun d => (w.connection d).farewell d finalizing :=
        List.flatMap_congr fun d hd => farewell_teardown hl (hne d hd) finalizing finalizing
      have hfirst : Move ⟨w, ↑(c :: rest) + out, lines, due⟩
          ((w.connection c).farewell c finalizing)
          ⟨World.teardown finalizing w c, ↑rest + out, lines, due⟩ :=
        .tearDown finalizing (by rw [← Multiset.cons_coe, Multiset.cons_add]) hl
      rw [hsame] at hrest
      exact hfirst.moves.trans hrest

/-- **Idle connections that are too old** say farewell. -/
theorem moves_sweep (hw : w.Balanced out) (hp : w.Plugged lines) (p : PoolId) :
    Moves (holding w out lines)
      ((w.expired p).flatMap fun c => (w.connection c).farewell c false)
      (holding (w.sweep p).1 out lines) := by
  have hstrike : Move (holding w out lines) [] (holding (w.updatePool p fun pool => { pool with
        idle := pool.idle.filter fun c => !w.isExpired p c
        total := pool.total - (w.expired p).length }) (↑(w.expired p) + out) lines) := by
    refine .strike p _ (fun _ => rfl) (fun _ => rfl) ?_
    refine ((List.filter_append_perm (w.isExpired p) (w.pool p).idle).symm).trans ?_
    exact (List.reverse_perm _).symm.append_right _
  have hidle : ∀ c ∈ w.expired p, c ∈ (w.pool p).idle := fun c hc =>
    (List.mem_filter.mp (List.mem_reverse.mp hc)).1
  have htear := moves_teardownAll false out none (hp.updatePool p fun pool =>
    { pool with
      idle := pool.idle.filter fun c => !w.isExpired p c
      total := pool.total - (w.expired p).length })
    (List.nodup_reverse.mpr ((hw.idle_nodup p).filter _)) fun c hc => by
      have hlive := (hw.waiting p c (hidle c hc)).live
      exact hlive.updatePool _ _
  exact (Moves.head hstrike htear).forget (w.expired p)

/-! ## Closing a pool -/

theorem lasts_exterior (p : PoolId) :
    World.Lasts fun w w' => (w'.pool p).exterior = (w.pool p).exterior := by
  refine World.lasts_read (fun w => (w.pool p).exterior) (fun h => h.pool p) (fun _ _ _ => rfl)
    fun w c => ?_
  unfold World.hangUp
  split <;> rfl

theorem exterior_teardown (w : World) (c : ConnectionId) (finalizing : Bool) (p : PoolId) :
    ((World.teardown finalizing w c).pool p).exterior = (w.pool p).exterior :=
  (lasts_exterior p).teardown finalizing w c

theorem exterior_teardownAll (l : List ConnectionId) (finalizing : Bool) (p : PoolId) (w : World) :
    ((l.foldl (World.teardown finalizing) w).pool p).exterior = (w.pool p).exterior :=
  (lasts_exterior p).teardownAll finalizing l w

theorem exterior_forgetAll (w : World) (l : List ConnectionId) (p : PoolId) :
    ((l.foldl World.forget w).pool p).exterior = (w.pool p).exterior :=
  (World.unseen_forgetAll l w).pool p

theorem closed_freeSlot (w : World) (p q : PoolId) :
    ((w.freeSlot p).pool q).closed = (w.pool q).closed :=
  w.pool_updatePool_congr p (fun pool =>
    { pool with total := pool.total - 1, inUse := pool.inUse - 1 }) Pool.closed (fun _ => rfl) q

theorem closed_retire (w : World) (c : ConnectionId) (q : PoolId) :
    ((w.retire c).pool q).closed = (w.pool q).closed := by
  rw [World.retire, (World.unseen_forget _ c).readPool Pool.closed fun _ => rfl,
    read_congr (exterior_teardown _ c false q) Pool.closed fun _ => rfl]
  exact closed_freeSlot w _ q

theorem closed_checkIn (w : World) (c : ConnectionId) (q : PoolId) :
    ((w.checkIn c).pool q).closed = (w.pool q).closed := by
  unfold World.checkIn
  simp only
  split
  · exact closed_retire w c q
  · exact World.pool_updatePool_congr _ _ (fun pool =>
      { pool with inUse := pool.inUse - 1, idle := c :: pool.idle }) Pool.closed (fun _ => rfl) q

theorem closed_sweep (w : World) (p q : PoolId) :
    ((w.sweep p).1.pool q).closed = (w.pool q).closed := by
  show (((w.expired p).foldl World.forget
    ((w.expired p).foldl (World.teardown false) _)).pool q).closed = _
  rw [read_congr (exterior_forgetAll _ _ q) Pool.closed fun _ => rfl,
    read_congr (exterior_teardownAll _ false q _) Pool.closed fun _ => rfl]
  exact w.pool_updatePool_congr p (fun pool => { pool with
    idle := pool.idle.filter fun c => !w.isExpired p c
    total := pool.total - (w.expired p).length }) Pool.closed (fun _ => rfl) q

theorem closed_shutDown (w : World) (p q : PoolId) :
    (p ≠ q → ((w.shutDown p).pool q).closed = (w.pool q).closed)
      ∧ ((w.pool q).closed = true → ((w.shutDown p).pool q).closed = true) := by
  unfold World.shutDown
  split
  · exact ⟨fun _ => rfl, id⟩
  · rw [read_congr (exterior_forgetAll _ _ q) Pool.closed fun _ => rfl,
      (World.unseen_tellListeners _ p .poolClosed).readPool Pool.closed (fun _ => rfl),
      read_congr (exterior_teardownAll _ true q _) Pool.closed fun _ => rfl, World.pool_updatePool]
    constructor
    · exact fun hne => by rw [if_neg fun h => hne h.1]
    · intro hclosed
      split
      · rfl
      · exact hclosed

/-- **A pool that closes** tears all its idle connections down, and then its listeners hear of
it. -/
theorem moves_shutDown (hw : w.Balanced out) (hp : w.Plugged lines)
    (ho : (w.pool p).closed = false) :
    Moves (holding w out lines) (w.closing p) (holding (w.shutDown p) out lines) := by
  have hknown := w.known_of_pool_open ho
  obtain ⟨v, hv⟩ : ∃ v, v = w.updatePool p fun pool => { pool with
    closed := true, idle := [], total := pool.total - (w.pool p).idle.reverse.length } := ⟨_, rfl⟩
  have hshut : Move (holding w out lines) []
      ⟨v, ↑(w.pool p).idle.reverse + out, lines, some p⟩ := by
    rw [hv, Multiset.coe_reverse]
    exact .shut p rfl ho (fun _ => rfl) (fun _ => rfl) fun _ => rfl
  have htear : Moves ⟨v, ↑(w.pool p).idle.reverse + out, lines, some p⟩
      ((w.pool p).idle.reverse.flatMap fun c => (w.connection c).farewell c true)
      ⟨(w.pool p).idle.reverse.foldl (World.teardown true) v, out, lines, some p⟩ := by
    have htear := moves_teardownAll true out (some p)
      (hp.updatePool p fun pool => { pool with
        closed := true, idle := [], total := pool.total - (w.pool p).idle.reverse.length })
      (List.nodup_reverse.mpr (hw.idle_nodup p)) fun c hc => by
        have hlive := (hw.waiting p c (List.mem_reverse.mp hc)).live
        exact hlive.updatePool _ _
    rw [hv]
    exact htear
  have hround : ((((w.pool p).idle.reverse.foldl (World.teardown true) v).pool p).round p
      .poolClosed) = (w.pool p).round p .poolClosed := by
    rw [read_congr (exterior_teardownAll _ true p v) (fun pool => pool.round p .poolClosed)
      fun _ => rfl, hv, World.pool_updatePool_self hknown]
    rfl
  have hdismiss : Move ⟨(w.pool p).idle.reverse.foldl (World.teardown true) v, out, lines, some p⟩
      ((w.pool p).round p .poolClosed) (holding (((w.pool p).idle.reverse.foldl
        (World.teardown true) v).tellListeners p .poolClosed) out lines) := by
    rw [← hround]
    exact .dismiss rfl
  have hworld : w.shutDown p = (w.pool p).idle.reverse.foldl World.forget
      (((w.pool p).idle.reverse.foldl (World.teardown true) v).tellListeners p .poolClosed) := by
    rw [World.shutDown, ho, hv]
    rfl
  rw [hworld]
  exact (Moves.head hshut (htear.trans hdismiss.moves)).forget _

/-! ## Checking out -/

/-- What is in hand when a connection was asked for. -/
def inHand (out : Multiset ConnectionId) : Except PoolError ConnectionId → Multiset ConnectionId
  | .error _ => out
  | .ok c => c ::ₘ out

/-- **What an operation that opens connections comes to**: moves after which nothing is in hand
that was not, apart from the connection that it answers with; no other connection is new, and no
pool is closed that was open. -/
structure Brings (w : World) (out : Multiset ConnectionId) (lines : PhysicalConnectionId → Prop)
    (w' : World) (result : Except PoolError ConnectionId) : Prop where
  moves : ∃ l, Moves (holding w out lines) l (holding w' (inHand out result) lines)
  known : ∀ d, w'.connections.Known d → w.connections.Known d ∨ result = .ok d
  closed : ∀ q, (w'.pool q).closed = (w.pool q).closed

/-- **Opening a connection for a pool.** -/
theorem brings_openConnection (hp : w.pools.Known p) :
    Brings w out lines (w.openConnection p).1 (w.openConnection p).2 := by
  obtain ⟨due, error, -, h⟩ | ⟨sources, error, -, h⟩
    | ⟨v, chain, sources, number, -, -, hnames, h⟩ :=
    w.openConnection_cases p <;> rw [h]
  · -- the driver opens no line
    have hstill : w.Still { w with
        driver := { w.driver with faults := { w.driver.faults with connect := due } } } :=
      { World.Still.refl w with
        silent := World.emits_none rfl rfl, acts := (Driver.Act.switch _).acts }
    exact ⟨⟨[], (Move.still hstill).moves⟩, fun d => Or.inl, fun _ => rfl⟩
  · -- an interceptor cannot be made, and the line is closed again
    have hwrite : Move (holding { w with driver := (w.driver.openConnection.1.closeConnection
        w.driver.connections.next) } out lines) [] _ :=
      .write p (f := fun pool => { pool with sources }) (fun _ => rfl) (fun _ => rfl) fun _ => rfl
    exact ⟨⟨_, (Move.misdial.moves).silent hwrite⟩, fun d => Or.inl,
      World.pool_updatePool_congr _ p (fun pool => { pool with sources }) Pool.closed fun _ => rfl⟩
  · -- the caches of the chain are made before the connection is opened
    have hstill : w.Still { w with caches := v.caches } :=
      { World.Still.refl w with silent := World.emits_none rfl rfl }
    have henlist : Move (holding { w with caches := v.caches } out lines) _ _ :=
      .enlist hp number hnames
    have hsources : Move (holding (({ w with caches := v.caches } : World).enlist p number chain)
        (w.connections.next ::ₘ out) lines) [] _ :=
      .write p (f := fun pool => { pool with sources }) (fun _ => rfl) (fun _ => rfl) fun _ => rfl
    have hopened : Move (holding ((({ w with caches := v.caches } : World).enlist p number
        chain).updatePool p fun pool => { pool with sources })
          (w.connections.next ::ₘ out) lines) [] _ :=
      .write p (f := fun pool => { pool with opened := number }) (fun _ => rfl) (fun _ => rfl)
        fun _ => rfl
    refine ⟨⟨_, .head (.still hstill) ((henlist.moves.silent hsources).silent hopened)⟩,
      fun d hd => ?_, fun q => ?_⟩
    · exact ((Registry.known_register _ _ _).mp hd).imp_right fun hnew => by rw [hnew]
    · rw [World.pool_updatePool_congr _ p (fun pool => { pool with opened := number }) Pool.closed
          fun _ => rfl,
        World.pool_updatePool_congr _ p (fun pool => { pool with sources }) Pool.closed
          fun _ => rfl]
      rfl

/-- Books that are written before. -/
theorem Brings.after_write {w' : World} {result : Except PoolError ConnectionId} {f : Pool → Pool}
    (h : Brings (w.updatePool p f) out lines w' result)
    (hc : ∀ pool, (f pool).charter = pool.charter) (hs : ∀ pool, (f pool).closed = pool.closed)
    (hi : ∀ pool, (f pool).idle = pool.idle) : Brings w out lines w' result := by
  obtain ⟨⟨l, hmoves⟩, hknown, hclosed⟩ := h
  exact ⟨⟨l, .head (.write p hc hs hi) hmoves⟩, hknown, fun q =>
    (hclosed q).trans (w.pool_updatePool_congr p f Pool.closed hs q)⟩

/-- **Taking a slot for a new connection.** -/
theorem brings_extend (hp : w.pools.Known p) :
    Brings w out lines (w.extend p).1 (w.extend p).2 := by
  rcases Nat.lt_or_ge (w.pool p).total (w.pool p).config.maxConnections with hlimit | hfull
  · have hopened : Brings w out lines ((w.updatePool p Pool.takeSlot).openConnection p).1
        ((w.updatePool p Pool.takeSlot).openConnection p).2 :=
      (brings_openConnection ((Registry.known_modify _ _ _ _).mpr hp)).after_write
        (fun _ => rfl) (fun _ => rfl) fun _ => rfl
    obtain ⟨v, result, hv⟩ : ∃ v result,
      (w.updatePool p Pool.takeSlot).openConnection p = (v, result) := ⟨_, _, rfl⟩
    rw [hv] at hopened
    cases result with
    | ok c =>
        rw [World.extend_ok hlimit hv]
        exact hopened
    | error error =>
        rw [World.extend_error hlimit hv]
        obtain ⟨⟨l, hmoves⟩, hknown, hclosed⟩ := hopened
        exact ⟨⟨l, hmoves.silent (.write p (fun _ => rfl) (fun _ => rfl) fun _ => rfl)⟩,
          fun d hd => (hknown d hd).imp_right nofun, fun q =>
            (closed_freeSlot v p q).trans (hclosed q)⟩
  · rw [World.extend_of_full hfull]
    exact ⟨⟨[], .refl⟩, fun d => Or.inl, fun _ => rfl⟩

/-- **Looking for a connection to hand out.** The induction is on the idle connections that are
still to be looked at; each of them is struck off before it is looked at. -/
theorem brings_acquire {idle : List ConnectionId} : ∀ {w : World}, w.Balanced out →
    w.Plugged lines → w.pools.Known p → (w.pool p).idle = idle →
    Brings w out lines (World.acquire p idle w).1 (World.acquire p idle w).2 := by
  induction idle with
  | nil => exact fun _ _ hp _ => brings_extend hp
  | cons c rest ih =>
      intro w hw hplug hp hidle
      obtain ⟨v, hv⟩ : ∃ v, v = w.updatePool p fun pool =>
        { pool with idle := rest, inUse := pool.inUse + 1 } := ⟨_, rfl⟩
      have hbalanced : v.Balanced (c ::ₘ out) := by
        rw [hv]
        exact hw.take hidle
      have hvplug : v.Plugged lines := by
        rw [hv]
        exact hplug.updatePool p _
      have hstrike : Move (holding w out lines) [] (holding v (c ::ₘ out) lines) := by
        have hperm : (w.pool p).idle.Perm ([c] ++ rest) := by
          rw [hidle]
          exact .refl _
        rw [hv, ← Multiset.singleton_add, ← Multiset.coe_singleton]
        exact .strike p [c] (fun _ => rfl) (fun _ => rfl) hperm
      have hstruck : ∀ q, (v.pool q).closed = (w.pool q).closed := by
        rw [hv]
        exact w.pool_updatePool_congr p _ Pool.closed fun _ => rfl
      have hacquire : World.acquire p (c :: rest) w
          = if (v.pool p).config.testOnCheckout && !v.isConnectionValid c then
              World.acquire p rest (v.retire c)
            else (v, .ok c) := by
        rw [hv]
        rfl
      rw [hacquire]
      split
      · -- it is not valid any more: it is retired, and the search goes on
        have hlive := hbalanced.out_live c (Multiset.mem_cons_self c out)
        have hpool : (v.connection c).pool = p := by
          rw [hv]
          exact (hw.waiting p c (by rw [hidle]; exact List.mem_cons_self)).pool
        have hdone := hbalanced.retire hvplug
        have hvp : v.pools.Known p := by
          rw [hv]
          exact (Registry.known_modify _ _ _ _).mpr hp
        have hretired : ((v.retire c).pool p).idle = rest := by
          rw [World.idle_retire hvplug hlive.known, hv, World.pool_updatePool_self hp]
        obtain ⟨⟨l, hmoves⟩, hknown, hclosed⟩ :=
          ih hdone.balanced hdone.plugged (hdone.undisturbed.pools p hvp) hretired
        refine ⟨⟨_, .head hstrike ((moves_retire hlive).trans hmoves)⟩, fun d hd => ?_,
          fun q => ?_⟩
        · refine (hknown d hd).imp_left fun hk => ?_
          have hkv : v.connections.Known d :=
            ((World.spares_retire hvplug hlive.known).known d).mp hk
          rw [hv] at hkv
          exact hkv
        · rw [hclosed, closed_retire, hstruck]
      · refine ⟨⟨[], hstrike.moves⟩, fun d hd => Or.inl ?_, hstruck⟩
        rw [hv] at hd
        exact hd

/-- **Checking a connection out.** -/
theorem brings_checkOut (hw : w.Balanced out) (hplug : w.Plugged lines) (p : PoolId) :
    Brings w out lines (w.checkOut p).1 (w.checkOut p).2 := by
  obtain ⟨-, hrefused⟩ | ⟨hopen, v, error, hv, hfailed⟩ | ⟨hopen, v, c, hv, hhanded⟩ :=
    w.checkOut_cases p
  · rw [hrefused]
    exact ⟨⟨[], .refl⟩, fun d => Or.inl, fun _ => rfl⟩
  · have hbrings := brings_acquire hw hplug (w.known_of_pool_open hopen) rfl
    rw [hv] at hbrings
    rw [hfailed]
    exact hbrings
  · have hp := w.known_of_pool_open hopen
    have hacquired := (hw.acquire hplug hp rfl).1
    obtain ⟨⟨l, hmoves⟩, hknown, hclosed⟩ := brings_acquire hw hplug hp rfl
    rw [hv] at hacquired hmoves hknown hclosed
    have hmem : c ∈ c ::ₘ out := Multiset.mem_cons_self c out
    have htold := World.unseen_tellChain (v.updateMetadata c fun metadata =>
      metadata.checkOut v.now) c (.attached c)
    rw [hhanded]
    refine ⟨⟨_, hmoves.tail (.handOut hmem (hacquired.balanced.1.out_live c hmem))⟩,
      fun d hd => hknown d ?_, fun q => (htold.readPool Pool.closed (fun _ => rfl) q).trans
        (hclosed q)⟩
    exact (Registry.known_modify _ _ _ _).mp ((htold.sparesAll.known d).mp hd)

/-- A connection that is handed out is the pool's, and has been checked out. -/
theorem handed_checkOut (hw : w.Balanced out) (hplug : w.Plugged lines) {w' : World}
    (h : w.checkOut p = (w', .ok c)) :
    (w'.connection c).pool = p ∧ 1 ≤ (w'.connection c).metadata.checkouts := by
  obtain ⟨-, hrefused⟩ | ⟨-, v, error, -, hfailed⟩ | ⟨hopen, v, d, hv, hhanded⟩ :=
    w.checkOut_cases p
  · rw [hrefused] at h
    exact nomatch h
  · rw [hfailed] at h
    exact nomatch h
  · have hacquired := (hw.acquire hplug (w.known_of_pool_open hopen) rfl).1
    rw [hv] at hacquired
    rw [hhanded] at h
    obtain ⟨rfl, hd⟩ := Prod.mk.inj h
    obtain rfl := Except.ok.inj hd
    have hknown := (hacquired.balanced.1.out_live d (Multiset.mem_cons_self d out)).known
    have htold := World.unseen_tellChain (v.updateMetadata d fun metadata =>
      metadata.checkOut v.now) d (.attached d)
    constructor
    · rw [htold.read Connection.pool fun _ => rfl]
      exact ((v.spares_updateMetadata d _).pool d).trans hacquired.balanced.2
    · rw [htold.read (fun connection => connection.metadata.checkouts) fun _ => rfl,
        World.updateMetadata, World.connection_updateConnection, if_pos ⟨rfl, hknown⟩]
      exact Nat.le_add_left 1 _

/-! ## Starting a pool -/

/-- **A pool that starts** tells its listeners so. -/
theorem moves_startPool (w : World) (config : PoolConfig) :
    ∃ l, Moves (holding w out lines) l (holding (w.startPool config).1 out lines) := by
  obtain ⟨error, h⟩ | ⟨sources, h⟩ := w.startPool_cases config
  · rw [h]
    exact ⟨[], .refl⟩
  · rw [h]
    -- first there are caches for the listeners, which nobody hears of
    have hmade : w.Still { w with caches := (w.makeInterceptors config.interceptors).1.caches } :=
      { World.Still.refl w with silent := World.emits_none rfl rfl }
    exact ⟨_, .head (.still hmade)
      (Move.moves (.found rfl rfl (w.names_makeInterceptors config.interceptors)))⟩

end Custody

end ConnectionPool
