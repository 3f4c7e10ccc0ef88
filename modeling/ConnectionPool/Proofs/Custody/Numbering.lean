import ConnectionPool.Proofs.Custody.Supplying

/-!
# Connections in order

A pool keeps its connections in two orders. Those that it opened have the numbers from 1 on in the
order in which they were opened (`World.NumbersAll`), and those that wait come in the order in which
they were returned, the one returned last first. Here is what each operation does to the two: only
a checkout opens a connection, which gets the next number (`Supplies.numbersAll`), and only one that
is returned to an open pool is put in front of the others (`checkIn_cases`).
-/

set_option autoImplicit false

namespace ConnectionPool

namespace World

/-- The connections of a pool, in the order in which they were opened. -/
def rollOf (w : World) (p : PoolId) : List ConnectionId :=
  (List.range' 1 w.connections.size).filter fun c => (w.connection c).pool = p

/-- The numbers that the connections of a pool have, in the order in which they were opened. -/
def numbersOf (w : World) (p : PoolId) : List Nat :=
  (w.rollOf p).map fun c => (w.connection c).metadata.number

/-- **Every pool numbers its connections from 1 on**, in the order in which they are opened. -/
def NumbersAll (w : World) : Prop := ∀ p, w.numbersOf p = List.range' 1 (w.pool p).opened

/-- **The connections that there are** keep their pools and their numbers. -/
structure KeepsNumbers (w w' : World) : Prop where
  pool : ∀ c, w.connections.Known c → (w'.connection c).pool = (w.connection c).pool
  number : ∀ c, w.connections.Known c →
    (w'.connection c).metadata.number = (w.connection c).metadata.number

/-- **No connection is opened**, and those that there are keep their numbers. -/
structure SameRoll (w w' : World) : Prop extends KeepsNumbers w w' where
  size : w'.connections.size = w.connections.size
  opened : ∀ p, (w'.pool p).opened = (w.pool p).opened

/-- **No connection is opened or put back**; some may leave the lists of their pools. -/
structure Thins (w w' : World) : Prop extends SameRoll w w' where
  idle : ∀ p, (w'.pool p).idle.Sublist (w.pool p).idle

variable {w w' w'' : World} {p : PoolId} {c : ConnectionId}

theorem SameRoll.trans (h : SameRoll w w') (h' : SameRoll w' w'') : SameRoll w w'' where
  size := h'.size.trans h.size
  pool c hc := (h'.pool c ((Registry.known_congr h.size c).mpr hc)).trans (h.pool c hc)
  number c hc := (h'.number c ((Registry.known_congr h.size c).mpr hc)).trans (h.number c hc)
  opened p := (h'.opened p).trans (h.opened p)

/-- The numbers of a pool's connections among those that there were. -/
theorem KeepsNumbers.numbers (h : KeepsNumbers w w') (p : PoolId) :
    ((List.range' 1 w.connections.size).filter fun c => (w'.connection c).pool = p).map
        (fun c => (w'.connection c).metadata.number) = w.numbersOf p := by
  have hknown : ∀ c ∈ List.range' 1 w.connections.size, w.connections.Known c := by
    intro c hc
    rw [List.mem_range'_1] at hc
    exact ⟨by omega, by omega⟩
  rw [List.filter_congr (q := fun c => (w.connection c).pool = p) fun c hc => by
    rw [h.pool c (hknown c hc)]]
  exact List.map_congr_left fun c hc => h.number c (hknown c (List.mem_of_mem_filter hc))

theorem NumbersAll.sameRoll (hw : w.NumbersAll) (h : SameRoll w w') : w'.NumbersAll := by
  intro p
  rw [h.opened, ← hw p, ← h.numbers p, ← h.size]
  rfl

theorem Thins.refl (w : World) : Thins w w :=
  ⟨⟨⟨fun _ _ => rfl, fun _ _ => rfl⟩, rfl, fun _ => rfl⟩, fun _ => .refl _⟩

theorem Thins.trans (h : Thins w w') (h' : Thins w' w'') : Thins w w'' :=
  ⟨h.toSameRoll.trans h'.toSameRoll, fun p => (h'.idle p).trans (h.idle p)⟩

/-! ## Operations of pools -/

theorem thins_of_exterior (hs : w'.connections.size = w.connections.size)
    (hc : ∀ c, (w'.connection c).exterior = (w.connection c).exterior)
    (hp : ∀ p, (w'.pool p).exterior = (w.pool p).exterior) : Thins w w' where
  size := hs
  pool c _ := read_congr (hc c) Connection.pool fun _ => rfl
  number c _ := read_congr (hc c) (fun connection => connection.metadata.number) fun _ => rfl
  opened p := read_congr (hp p) Pool.opened fun _ => rfl
  idle p := by rw [read_congr (hp p) Pool.idle fun _ => rfl]

theorem Unseen.thins (h : w.Unseen w') : Thins w w' :=
  thins_of_exterior h.connections_size h.connection h.pool

theorem sameRoll_updatePool (w : World) (p : PoolId) {f : Pool → Pool}
    (hf : ∀ pool, (f pool).opened = pool.opened) : SameRoll w (w.updatePool p f) :=
  { (Thins.refl w).toSameRoll with opened := w.pool_updatePool_congr p f Pool.opened hf }

theorem thins_updatePool (w : World) (p : PoolId) {f : Pool → Pool}
    (hf : ∀ pool, (f pool).opened = pool.opened)
    (hi : (f (w.pool p)).idle.Sublist (w.pool p).idle) : Thins w (w.updatePool p f) where
  toSameRoll := w.sameRoll_updatePool p hf
  idle q := by
    rw [pool_updatePool]
    split
    · next hq => exact hq.1 ▸ hi
    · exact .refl _

theorem thins_updateMetadata (w : World) (c : ConnectionId) {f : Metadata → Metadata}
    (hf : ∀ metadata, (f metadata).number = metadata.number) :
    Thins w (w.updateMetadata c f) where
  size := Registry.size_modify _ _ _
  pool d _ := (w.spares_updateMetadata c f).pool d
  number d _ := w.connection_updateConnection_congr c
    (fun connection => { connection with metadata := f connection.metadata })
    (fun connection => connection.metadata.number) (fun connection => hf connection.metadata) d
  opened _ := rfl
  idle _ := .refl _

theorem thins_hangUp (w : World) (c : ConnectionId) : Thins w (w.hangUp c) := by
  unfold hangUp
  split
  · exact .refl w
  · have hread : ∀ {β : Type} (read : Connection → β),
        (∀ connection : Connection, read connection.hungUp = read connection) →
        ∀ d, read ((w.updateConnection c Connection.hungUp).connection d)
          = read (w.connection d) := fun read hr =>
      w.connection_updateConnection_congr c Connection.hungUp read hr
    exact
      { Thins.refl w with
        size := Registry.size_modify _ _ _
        pool := fun d _ => hread Connection.pool (fun _ => rfl) d
        number := fun d _ => hread (fun connection => connection.metadata.number) (fun _ => rfl) d }

/-- Connections that are torn down are not put back. -/
theorem lasts_thins : Lasts Thins :=
  ⟨Thins.trans, Unseen.thins,
    fun w c state => w.thins_updateMetadata c (f := (·.enter state)) fun _ => rfl, thins_hangUp⟩

theorem thins_retire (w : World) (c : ConnectionId) : Thins w (w.retire c) :=
  (w.thins_updatePool _ (f := fun pool =>
    { pool with total := pool.total - 1, inUse := pool.inUse - 1 }) (fun _ => rfl) (.refl _)).trans
      ((lasts_thins.teardown false _ c).trans (unseen_forget _ c).thins)

theorem thins_sweep (w : World) (p : PoolId) : Thins w (w.sweep p).1 :=
  (w.thins_updatePool p (f := fun pool => { pool with
    idle := pool.idle.filter fun c => !w.isExpired p c
    total := pool.total - (w.expired p).length }) (fun _ => rfl) List.filter_sublist).trans
      ((lasts_thins.teardownAll false _ _).trans (unseen_forgetAll (w.expired p) _).thins)

theorem thins_shutDown (w : World) (p : PoolId) : Thins w (w.shutDown p) := by
  unfold shutDown
  split
  · exact .refl w
  · have hmarked := w.thins_updatePool p (f := fun pool => { pool with
      closed := true
      idle := []
      total := pool.total - (w.pool p).idle.reverse.length }) (fun _ => rfl) (List.nil_sublist _)
    exact (hmarked.trans (lasts_thins.teardownAll true _ _)).trans
      ((unseen_tellListeners _ p .poolClosed).trans
        (unseen_forgetAll (w.pool p).idle.reverse _)).thins

/-- A pool that starts has opened no connection. -/
theorem thins_startPool (w : World) (config : PoolConfig) : Thins w (w.startPool config).1 := by
  obtain ⟨error, h⟩ | ⟨sources, h⟩ := w.startPool_cases config
  · rw [h]
    exact .refl w
  · rw [h]
    have hfounded : Thins w (w.founded config sources) := by
      refine { Thins.refl w with opened := fun p => ?_, idle := fun p => ?_ }
      · by_cases hp : w.pools.next = p
        · have hnone : w.pool w.pools.next = default :=
            Registry.get_of_not_known w.pools.not_known_next
          rw [← hp, w.pool_founded_next, hnone]
          rfl
        · rw [w.pool_founded_of_ne config sources hp]
      · rw [w.idle_founded config sources]
    exact hfounded.trans (unseen_tellListeners _ _ .poolStarted).thins

/-- A pool takes a connection back if it is open and the connection is not being torn down. -/
def takesBack (w : World) (c : ConnectionId) : Bool :=
  !(w.pool (w.connection c).pool).closed && !(w.connection c).metadata.state.isTerminal

/-- **A connection that is returned** is put back in front of the others, or retired. -/
theorem checkIn_cases (w : World) (c : ConnectionId) :
    (w.takesBack c = false ∧ Thins w (w.checkIn c))
    ∨ (w.takesBack c = true ∧ SameRoll w (w.checkIn c)
      ∧ ((w.checkIn c).pool (w.connection c).pool).idle
        = c :: (w.pool (w.connection c).pool).idle
      ∧ ∀ q, (w.connection c).pool ≠ q → ((w.checkIn c).pool q).idle = (w.pool q).idle) := by
  obtain ⟨f, hf⟩ : ∃ f : Pool → Pool, f = fun pool =>
    { pool with inUse := pool.inUse - 1, idle := c :: pool.idle } := ⟨_, rfl⟩
  cases ht : w.takesBack c with
  | false =>
      refine Or.inl ⟨rfl, ?_⟩
      have hretire : w.checkIn c = w.retire c := by
        rw [takesBack, ← Bool.not_or, Bool.not_eq_false'] at ht
        rw [checkIn, if_pos ht]
      exact hretire ▸ w.thins_retire c
  | true =>
      rw [takesBack, ← Bool.not_or, Bool.not_eq_true'] at ht
      have hput : w.checkIn c = (w.updateMetadata c fun metadata =>
          metadata.checkIn w.now).updatePool (w.connection c).pool f := by
        rw [checkIn, if_neg (by rw [ht]; exact Bool.false_ne_true), hf]
      have hp := w.known_of_pool_open (Bool.or_eq_false_iff.mp ht).1
      refine Or.inr ⟨rfl, ?_, ?_, fun q hq => ?_⟩
      · rw [hput]
        have hwritten := w.thins_updateMetadata c (f := fun metadata => metadata.checkIn w.now)
          fun _ => rfl
        exact hwritten.toSameRoll.trans (sameRoll_updatePool _ _ fun _ => by rw [hf])
      · have hp' : (w.updateMetadata c fun metadata => metadata.checkIn w.now).pools.Known
            (w.connection c).pool := hp
        rw [hput, pool_updatePool_self hp', hf]
        rfl
      · rw [hput, pool_updatePool_of_ne hq]
        rfl

/-! ## Checkouts -/

section Supplies

variable {result : Except PoolError ConnectionId} {lent : Option ConnectionId}
  {signals : List Signal} {books : Pool}

theorem remaining_suffix (w : World) (p : PoolId) : w.remaining p <:+ (w.pool p).idle :=
  ⟨w.passedOver p, w.passedOver_append_remaining p⟩

/-- A connection that a checkout passes over keeps its number too. -/
theorem Supply.keepsNumbers (h : Supply p lent signals books w w')
    (hl : ∀ c, lent = some c → w.connections.Known c → (w'.connection c).exterior
      = ({ w.connection c with
        metadata := (w.connection c).metadata.checkOut w.now } : Connection).exterior) :
    KeepsNumbers w w' := by
  have hread : ∀ {β : Type} (read : Connection → β),
      (∀ connection : Connection, read connection.exterior = read connection) →
      (∀ connection : Connection, read (connection.hungUp.enter .closed) = read connection) →
      (∀ connection : Connection, read { connection with
        metadata := connection.metadata.checkOut w.now } = read connection) →
      ∀ c, w.connections.Known c → read (w'.connection c) = read (w.connection c) := by
    intro β read hr hg hc c hk
    by_cases hlent : lent = some c
    · exact (read_congr (hl c hlent hk) read hr).trans (hc _)
    · by_cases hgone : c ∈ w.passedOver p
      · exact (read_congr (h.gone c hgone).1 read hr).trans (hg _)
      · exact read_congr (h.kept c hk hgone hlent).1 read hr
  exact ⟨hread Connection.pool (fun _ => rfl) (fun _ => rfl) fun _ => rfl,
    hread (fun connection => connection.metadata.number) (fun _ => rfl) (fun _ => rfl) fun _ => rfl⟩

theorem Supply.idle (h : Supply p lent signals books w w')
    (hi : books.idle.Sublist (w.pool p).idle) (q : PoolId) :
    (w'.pool q).idle.Sublist (w.pool q).idle := by
  by_cases hq : q = p
  · subst hq
    rw [read_congr h.books Pool.idle fun _ => rfl]
    exact hi
  · rw [read_congr (h.pools q hq) Pool.idle fun _ => rfl]

theorem Supply.opened (h : Supply p lent signals books w w')
    (ho : books.opened = (w.pool p).opened) (q : PoolId) :
    (w'.pool q).opened = (w.pool q).opened := by
  by_cases hq : q = p
  · subst hq
    rw [read_congr h.books Pool.opened fun _ => rfl]
    exact ho
  · rw [read_congr (h.pools q hq) Pool.opened fun _ => rfl]

/-- **Only a connection that is opened** is new, and it gets the next number of its pool. -/
theorem Supplies.numbersAll (h : Supplies p w w' result) (hw : w.NumbersAll) :
    w'.NumbersAll := by
  cases h with
  | lends hc supply same lent =>
      refine hw.sameRoll ⟨supply.keepsNumbers fun d hd _ => ?_, same, supply.opened rfl⟩
      obtain rfl := Option.some.inj hd
      exact lent
  | unreachable hc failed supply same =>
      exact hw.sameRoll ⟨supply.keepsNumbers (fun d hd => by cases hd), same, supply.opened rfl⟩
  | refuses hc reached refused supply same =>
      exact hw.sameRoll ⟨supply.keepsNumbers (fun d hd => by cases hd), same, supply.opened rfl⟩
  | @opens sources chain hc reached made names supply more lent =>
      intro q
      have hkeeps := supply.keepsNumbers fun d hd hk => by
        obtain rfl := Option.some.inj hd
        exact absurd hk w.connections.not_known_next
      have hnew : (w'.connection w.connections.next).pool = p :=
        read_congr lent Connection.pool fun _ => rfl
      have hnumber : (w'.connection w.connections.next).metadata.number
          = (w.pool p).opened + 1 :=
        read_congr lent (fun connection => connection.metadata.number) fun _ => rfl
      have hnext : 1 + w.connections.size = w.connections.next := Nat.add_comm _ _
      rw [numbersOf, rollOf, more, List.range'_1_concat, List.filter_append,
        List.map_append, hkeeps.numbers q, hw q, hnext]
      by_cases hq : q = p
      · subst hq
        have hopened : (w'.pool q).opened = (w.pool q).opened + 1 :=
          read_congr supply.books Pool.opened fun _ => rfl
        rw [hopened, List.range'_1_concat, List.filter_cons_of_pos (by rw [hnew]; simp)]
        simp [hnumber, Nat.add_comm]
      · rw [read_congr (supply.pools q hq) Pool.opened fun _ => rfl,
          List.filter_cons_of_neg (by rw [hnew]; simpa using Ne.symm hq)]
        simp

theorem Supplies.idle (h : Supplies p w w' result) (q : PoolId) :
    (w'.pool q).idle.Sublist (w.pool q).idle := by
  cases h with
  | lends hc supply =>
      refine supply.idle ?_ q
      have hsuffix := w.remaining_suffix p
      rw [hc] at hsuffix
      exact (List.sublist_cons_self _ _).trans hsuffix.sublist
  | opens hc _ _ _ supply => exact supply.idle (List.nil_sublist _) q
  | unreachable hc _ supply => exact supply.idle (List.nil_sublist _) q
  | refuses hc _ _ supply => exact supply.idle (List.nil_sublist _) q

end Supplies

end World

end ConnectionPool
