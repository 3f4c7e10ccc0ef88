import ConnectionPool.Proofs.Custody.Moves

/-!
# Where the connections are

At any time every connection of a pool is in somebody's hands, or waits in its pool, or is gone
for good, with its line closed; and every line that is open belongs to a connection of a pool or
to a client (`Custody.Kept`). Every move keeps it so (`Move.kept`): a connection that leaves the
list of its pool gets into somebody's hands, and it leaves these for the list again or by being
torn down.
-/

set_option autoImplicit false

namespace ConnectionPool

/-- **A connection is gone**: it was torn down, and its line is closed. -/
structure World.Gone (w : World) (c : ConnectionId) : Prop where
  closed : (w.connection c).closed = true
  state : (w.connection c).metadata.state = .closed
  line : (w.driver.connection (w.connection c).physical).closed = true

theorem World.TornDown.closed_line {finalizing : Bool} {c : ConnectionId} {w w' : World}
    (h : TornDown finalizing c w w') (line : PhysicalConnectionId) :
    (w'.driver.connection line).closed
      = (decide ((w.connection c).physical = line) || (w.driver.connection line).closed) := by
  rw [← Driver.closed_closeConnection, Driver.connection, h.lines]
  rfl

/-- A connection that was torn down is gone. -/
theorem World.TornDown.gone {finalizing : Bool} {c : ConnectionId} {w w' : World}
    (h : TornDown finalizing c w w') : w'.Gone c where
  closed := h.alters.read Connection.closed fun _ => rfl
  state := h.alters.read (fun connection => connection.metadata.state) fun _ => rfl
  line := by
    have hphysical : (w'.connection c).physical = (w.connection c).physical :=
      h.alters.read Connection.physical fun _ => rfl
    rw [h.closed_line, hphysical, decide_eq_true rfl, Bool.true_or]

namespace Custody

variable {K K' : Custody} {l : List Signal} {w : World} {c : ConnectionId}

/-- **All connections and lines are accounted for.** -/
structure Kept (K : Custody) : Prop where
  plugged : K.world.Plugged K.lines
  pool_known : ∀ c, K.world.connections.Known c →
    K.world.pools.Known (K.world.connection c).pool
  placed : ∀ c, K.world.connections.Known c →
    c ∈ K.hands ∨ c ∈ (K.world.pool (K.world.connection c).pool).idle ∨ K.world.Gone c
  owned : ∀ line, K.world.driver.connections.Known line →
    (K.world.driver.connection line).closed = false →
    (∃ c, K.world.connections.Known c ∧ (K.world.connection c).physical = line) ∨ K.lines line
  shut : ∀ p, (K.world.pool p).closed = true → (K.world.pool p).idle = []

/-! ## What a move leaves alone -/

/-- What is gone stays gone, if the connection stays as it is and its line closed. -/
theorem gone_congr {w w' : World} (h : w.Gone c)
    (hc : (w'.connection c).exterior = (w.connection c).exterior)
    (hl : (w.driver.connection (w.connection c).physical).closed = true →
      (w'.driver.connection (w.connection c).physical).closed = true) : w'.Gone c := by
  refine ⟨?_, ?_, ?_⟩
  · exact (read_congr hc Connection.closed fun _ => rfl).trans h.closed
  · exact (read_congr hc (fun connection => connection.metadata.state) fun _ => rfl).trans h.state
  · rw [read_congr hc Connection.physical fun _ => rfl]
    exact hl h.line

/-- **Moves in the books of pools**: connections and lines stay as they are, and what leaves the
list of its pool gets into somebody's hands. -/
theorem Kept.pools (hK : K.Kept) {hands : Multiset ConnectionId} {due : Option PoolId}
    (hsize : w.connections.size = K.world.connections.size)
    (hc : ∀ c, (w.connection c).exterior = (K.world.connection c).exterior)
    (hlines : w.driver.connections = K.world.driver.connections)
    (hpools : ∀ p, K.world.pools.Known p → w.pools.Known p)
    (hhands : ∀ c ∈ K.hands, c ∈ hands ∨ c ∈ (w.pool (K.world.connection c).pool).idle)
    (hidle : ∀ p, ∀ c ∈ (K.world.pool p).idle, c ∈ hands ∨ c ∈ (w.pool p).idle)
    (hshut : ∀ p, (w.pool p).closed = true → (w.pool p).idle = []) :
    Kept { K with world := w, hands, due } := by
  have hknown : ∀ c, w.connections.Known c ↔ K.world.connections.Known c :=
    Registry.known_congr hsize
  have hpool : ∀ c, (w.connection c).pool = (K.world.connection c).pool := fun c =>
    read_congr (hc c) Connection.pool fun _ => rfl
  have hphysical : ∀ c, (w.connection c).physical = (K.world.connection c).physical := fun c =>
    read_congr (hc c) Connection.physical fun _ => rfl
  refine
    { plugged := hK.plugged.congr hsize hphysical (by rw [hlines])
      pool_known := fun c hk => ?_
      placed := fun c hk => ?_
      owned := fun line hk hopen => ?_
      shut := hshut }
  · show w.pools.Known (w.connection c).pool
    rw [hpool c]
    exact hpools _ (hK.pool_known c ((hknown c).mp hk))
  · show c ∈ hands ∨ c ∈ (w.pool (w.connection c).pool).idle ∨ w.Gone c
    rw [hpool c]
    rcases hK.placed c ((hknown c).mp hk) with hout | hwaits | hgone
    · exact (hhands c hout).imp_right Or.inl
    · exact (hidle _ c hwaits).imp_right Or.inl
    · refine Or.inr (Or.inr (gone_congr hgone (hc c) ?_))
      rw [Driver.connection, Driver.connection, hlines]
      exact id
  · change w.driver.connections.Known line at hk
    change (w.driver.connections.get line).closed = false at hopen
    rw [hlines] at hk hopen
    refine (hK.owned line hk hopen).imp_left ?_
    rintro ⟨c, hc, hp⟩
    exact ⟨c, (hknown c).mpr hc, (hphysical c).trans hp⟩

/-- **Moves of the driver's lines**: pools and connections stay as they are. -/
theorem Kept.driver (hK : K.Kept) {driver : Driver} {lines : PhysicalConnectionId → Prop}
    (hplugged : ({ K.world with driver } : World).Plugged lines)
    (hclosed : ∀ line, K.world.driver.connections.Known line →
      (K.world.driver.connection line).closed = true → (driver.connection line).closed = true)
    (howned : ∀ line, driver.connections.Known line → (driver.connection line).closed = false →
      (K.world.driver.connections.Known line
        ∧ (K.world.driver.connection line).closed = false) ∨ lines line)
    (hkept : ∀ line, K.lines line → lines line) :
    Kept { K with world := { K.world with driver }, lines } where
  plugged := hplugged
  pool_known := hK.pool_known
  placed c hk := by
    rcases hK.placed c hk with hout | hwaits | hgone
    · exact Or.inl hout
    · exact Or.inr (Or.inl hwaits)
    · exact Or.inr (Or.inr (gone_congr hgone rfl (hclosed _ (hK.plugged.known c hk))))
  owned line hk hopen := by
    rcases howned line hk hopen with ⟨hk, hopen⟩ | hl
    · exact (hK.owned line hk hopen).imp_right (hkept line)
    · exact Or.inr hl
  shut := hK.shut

/-- **Moves of one connection**: it stays in its pool and keeps its line, and is accounted for
anew; the others stay where they are. -/
theorem Kept.alters (hK : K.Kept) {outside : Connection} {hands : Multiset ConnectionId}
    (h : World.Alters c outside K.world w) (hpool : outside.pool = (K.world.connection c).pool)
    (hphysical : outside.physical = (K.world.connection c).physical)
    (hlines : w.driver.connections.size = K.world.driver.connections.size)
    (hclosed : ∀ line, (K.world.driver.connection line).closed = true →
      (w.driver.connection line).closed = true)
    (hhands : ∀ d ∈ K.hands, d ≠ c → d ∈ hands) (hself : c ∈ hands ∨ w.Gone c) :
    Kept { K with world := w, hands } := by
  have hread : ∀ {β : Type} (read : Connection → β),
      (∀ connection : Connection, read connection.exterior = read connection) →
      read outside = read (K.world.connection c) →
      ∀ d, read (w.connection d) = read (K.world.connection d) := by
    intro β read hr hc d
    by_cases hd : d = c
    · subst hd
      exact (h.read read hr).trans hc
    · exact read_congr (h.other d hd) read hr
  have hpools := hread Connection.pool (fun _ => rfl) hpool
  have hphysicals := hread Connection.physical (fun _ => rfl) hphysical
  have hidle : ∀ p, (w.pool p).idle = (K.world.pool p).idle := fun p =>
    read_congr (h.pool p) Pool.idle fun _ => rfl
  refine
    { plugged := hK.plugged.congr h.connections_size hphysicals (by rw [hlines])
      pool_known := fun d hk => ?_
      placed := fun d hk => ?_
      owned := fun line hk hopen => ?_
      shut := fun p hp => ?_ }
  · show w.pools.Known (w.connection d).pool
    rw [hpools d]
    exact (Registry.known_congr h.pools_size _).mpr (hK.pool_known d ((h.known d).mp hk))
  · show d ∈ hands ∨ d ∈ (w.pool (w.connection d).pool).idle ∨ w.Gone d
    -- `c` is accounted for anew; what is gone cannot be `c`, and stays gone
    by_cases hd : d = c
    · subst hd
      exact hself.imp_right Or.inr
    · rw [hpools d, hidle]
      exact (hK.placed d ((h.known d).mp hk)).imp (fun hout => hhands d hout hd)
        (Or.imp_right fun hgone => gone_congr hgone (h.other d hd) (hclosed _))
  · have hknown : K.world.driver.connections.Known line := (Registry.known_congr hlines line).mp hk
    have hopen' : (K.world.driver.connection line).closed = false :=
      Bool.eq_false_of_not_eq_true fun hc => by
        rw [hclosed line hc] at hopen
        exact nomatch hopen
    refine (hK.owned line hknown hopen').imp_left ?_
    rintro ⟨d, hk, hp⟩
    exact ⟨d, (h.known d).mpr hk, (hphysicals d).trans hp⟩
  · show (w.pool p).idle = []
    rw [hidle]
    refine hK.shut p ?_
    exact (read_congr (h.pool p) Pool.closed fun _ => rfl).symm.trans hp

/-- The record of a connection in hand is changed. -/
theorem Kept.updateMetadata (hK : K.Kept) (hc : c ∈ K.hands) (hk : K.world.connections.Known c)
    (f : Metadata → Metadata) :
    Kept { K with world := K.world.updateMetadata c f } :=
  hK.alters ((World.Alters.refl K.world c).update hk
      (fun connection => { connection with metadata := f connection.metadata }) fun _ => rfl)
    rfl rfl rfl (fun _ => id) (fun _ hd _ => hd) (Or.inl hc)

/-- What interceptors keep is of no account. -/
theorem Kept.exterior (hK : K.Kept) {due : Option PoolId}
    (hsize : w.connections.size = K.world.connections.size)
    (hpools : w.pools.size = K.world.pools.size)
    (hlines : w.driver.connections = K.world.driver.connections)
    (hc : ∀ c, (w.connection c).exterior = (K.world.connection c).exterior)
    (hp : ∀ p, (w.pool p).exterior = (K.world.pool p).exterior) :
    Kept { K with world := w, due } := by
  have hidle : ∀ p, (w.pool p).idle = (K.world.pool p).idle := fun p =>
    read_congr (hp p) Pool.idle fun _ => rfl
  refine hK.pools hsize hc hlines (fun p => (Registry.known_congr hpools p).mpr)
    (fun _ => Or.inl) (fun p d hd => Or.inr ?_) fun p hclosed => ?_
  · rw [hidle]
    exact hd
  · rw [hidle]
    rw [read_congr (hp p) Pool.closed fun _ => rfl] at hclosed
    exact hK.shut p hclosed

/-- The books of one pool are written. -/
theorem Kept.updatePool (hK : K.Kept) {p : PoolId} {f : Pool → Pool}
    {hands : Multiset ConnectionId} {due : Option PoolId}
    (hhands : ∀ d ∈ K.hands, d ∈ hands
      ∨ d ∈ ((K.world.updatePool p f).pool (K.world.connection d).pool).idle)
    (hidle : ∀ d ∈ (K.world.pool p).idle, d ∈ hands ∨ d ∈ (f (K.world.pool p)).idle)
    (hshut : (f (K.world.pool p)).closed = true → (f (K.world.pool p)).idle = []) :
    Kept { K with world := K.world.updatePool p f, hands, due } := by
  refine hK.pools rfl (fun _ => rfl) rfl (fun q hq => (Registry.known_modify _ _ _ _).mpr hq)
    hhands (fun q d hd => ?_) fun q hq => ?_
  · rw [World.pool_updatePool]
    split
    · next h =>
        obtain ⟨rfl, -⟩ := h
        exact hidle d hd
    · exact Or.inr hd
  · rw [World.pool_updatePool] at hq ⊢
    split
    · next h =>
        rw [if_pos h] at hq
        obtain ⟨rfl, -⟩ := h
        exact hshut hq
    · next h =>
        rw [if_neg h] at hq
        exact hK.shut q hq

/-! ## Lines -/

/-- A line that is opened and closed again concerns no connection. -/
theorem Kept.misdial (hK : K.Kept) :
    Kept { K with world := { K.world with
      driver := K.world.driver.openConnection.1.closeConnection
        K.world.driver.connections.next } } := by
  obtain ⟨driver, hdriver⟩ : ∃ driver, driver = K.world.driver.openConnection.1.closeConnection
    K.world.driver.connections.next := ⟨_, rfl⟩
  rw [← hdriver]
  have hsize : driver.connections.size = K.world.driver.connections.size + 1 := by
    rw [hdriver, Driver.size_connections_closeConnection]
    exact Registry.size_register _ _
  have hclosed : ∀ line, (driver.connection line).closed
      = (decide (K.world.driver.connections.next = line)
        || (K.world.driver.openConnection.1.connection line).closed) := by
    rw [hdriver]
    exact Driver.closed_closeConnection _ _
  refine hK.driver (hK.plugged.congr rfl (fun _ => rfl) (by rw [hsize]; exact Nat.le_succ _))
    (fun line hk hc => ?_) (fun line hk hopen => Or.inl ?_) fun _ => id
  · rw [hclosed, World.connection_openConnection _ hk, hc, Bool.or_true]
  · rw [hclosed, Bool.or_eq_false_iff, decide_eq_false_iff_not] at hopen
    have hknown : K.world.driver.connections.Known line := by
      unfold Registry.Known Registry.next at *
      omega
    rw [World.connection_openConnection _ hknown] at hopen
    exact ⟨hknown, hopen.2⟩

/-- A line that a client opens is accounted for by the client. -/
theorem Kept.dial (hK : K.Kept) :
    Kept { K with
      world := { K.world with driver := K.world.driver.openConnection.1 }
      lines := fun line => line = K.world.driver.connections.next ∨ K.lines line } := by
  have hknown : ∀ line, K.world.driver.openConnection.1.connections.Known line
      ↔ K.world.driver.connections.Known line ∨ line = K.world.driver.connections.next :=
    Registry.known_register _ _
  refine hK.driver ?_ (fun line hk hc => ?_) (fun line hk hopen => ?_) fun _ => Or.inr
  · refine ⟨fun c hc => (hknown _).mpr (Or.inl (hK.plugged.known c hc)), hK.plugged.injective,
      fun line hl => ?_, fun line hl c hc => ?_⟩
    · exact (hknown line).mpr (hl.symm.imp_left (hK.plugged.raw_known line))
    · rcases hl with rfl | hl
      · intro he
        exact K.world.driver.connections.not_known_next (he ▸ hK.plugged.known c hc)
      · exact hK.plugged.raw_apart line hl c hc
  · rw [World.connection_openConnection _ hk]
    exact hc
  · rcases (hknown line).mp hk with hk | hnew
    · rw [World.connection_openConnection _ hk] at hopen
      exact Or.inl ⟨hk, hopen⟩
    · exact Or.inr (Or.inl hnew)

/-- Closing a line that no connection has. -/
theorem Kept.cut (hK : K.Kept) (line : PhysicalConnectionId) :
    Kept { K with world := { K.world with driver := K.world.driver.closeConnection line } } := by
  have hsize := K.world.driver.size_connections_closeConnection line
  refine hK.driver (hK.plugged.congr rfl (fun _ => rfl) hsize.ge) (fun other _ hc => ?_)
    (fun other hk hopen => Or.inl ?_) fun _ => id
  · rw [Driver.closed_closeConnection, hc, Bool.or_true]
  · rw [Driver.closed_closeConnection, Bool.or_eq_false_iff] at hopen
    exact ⟨(Registry.known_congr hsize other).mp hk, hopen.2⟩

/-! ## Connections and pools -/

/-- A connection that is torn down is gone. -/
theorem Kept.tearDown (hK : K.Kept) {hands : Multiset ConnectionId} (hh : K.hands = c ::ₘ hands)
    (hl : K.world.Live c) (finalizing : Bool) :
    Kept { K with world := World.teardown finalizing K.world c, hands } := by
  have htorn := World.tornDown_teardown hl finalizing
  refine hK.alters htorn.alters rfl rfl ?_ (fun line hc => ?_) (fun d hd hne => ?_)
    (Or.inr htorn.gone)
  · rw [htorn.lines]
    exact Driver.size_connections_closeConnection _ _
  · rw [htorn.closed_line, hc, Bool.or_true]
  · rw [hh] at hd
    exact (Multiset.mem_cons.mp hd).resolve_left hne

/-- A connection that is opened for a pool is in hand. -/
theorem Kept.enlist (hK : K.Kept) {p : PoolId} (hp : K.world.pools.Known p) (number : Nat)
    (chain : List Interceptor) :
    Kept { K with
      world := K.world.enlist p number chain
      hands := K.world.connections.next ::ₘ K.hands } := by
  have hadds := K.world.adds_enlist p number chain
  obtain ⟨w, hw⟩ : ∃ w, w = K.world.enlist p number chain := ⟨_, rfl⟩
  have hpools : w.pools = K.world.pools := by rw [hw]; rfl
  have hnew : (w.connection K.world.connections.next).physical
      = K.world.driver.connections.next := by
    rw [hw, World.connection_enlist]
  rw [← hw] at hadds ⊢
  refine ⟨hadds.plugged hK.plugged, fun c hc => ?_, fun c hc => ?_, fun line hk hopen => ?_,
    fun q => ?_⟩
  · show w.pools.Known (w.connection c).pool
    rw [hpools]
    rcases (hadds.known c).mp hc with hc | rfl
    · rw [hadds.old c hc]
      exact hK.pool_known c hc
    · rw [hadds.waiting.pool]
      exact hp
  · show c ∈ K.world.connections.next ::ₘ K.hands
      ∨ c ∈ (w.pool (w.connection c).pool).idle ∨ w.Gone c
    rcases (hadds.known c).mp hc with hc | rfl
    · rw [hadds.idle, hadds.old c hc]
      refine (hK.placed c hc).imp Multiset.mem_cons_of_mem (Or.imp_right fun hgone => ?_)
      refine gone_congr hgone (congrArg Connection.exterior (hadds.old c hc)) fun hclosed => ?_
      rw [(hadds.lines _ (hK.plugged.known c hc)).2]
      exact hclosed
    · exact Or.inl (Multiset.mem_cons_self _ _)
  · -- the line that was opened belongs to the new connection
    have hopened : line = K.world.driver.connections.next
        ∨ K.world.driver.connections.Known line := by
      change w.driver.connections.Known line at hk
      rw [hw] at hk
      exact ((Registry.known_register _ _ _).mp hk).symm
    rcases hopened with rfl | hold
    · exact Or.inl ⟨K.world.connections.next, (hadds.known _).mpr (Or.inr rfl), hnew⟩
    · change (w.driver.connection line).closed = false at hopen
      rw [(hadds.lines line hold).2] at hopen
      refine (hK.owned line hold hopen).imp_left ?_
      rintro ⟨c, hc, he⟩
      exact ⟨c, (hadds.known c).mpr (Or.inl hc), by
        show (w.connection c).physical = line
        rw [hadds.old c hc]
        exact he⟩
  · show (w.pool q).closed = true → (w.pool q).idle = []
    rw [World.pool, hpools]
    exact hK.shut q

/-- A connection that is put back waits in its pool. -/
theorem Kept.putBack (hK : K.Kept) {hands : Multiset ConnectionId} {f : Pool → Pool}
    (hh : K.hands = c ::ₘ hands) (hl : K.world.Live c)
    (hi : ∀ pool, (f pool).idle = c :: pool.idle)
    (hopen : (f (K.world.pool (K.world.connection c).pool)).closed ≠ true) :
    Kept { K with
      world := (K.world.updateMetadata c fun metadata =>
        metadata.checkIn K.world.now).updatePool (K.world.connection c).pool f
      hands } := by
  have hmem : c ∈ K.hands := by
    rw [hh]
    exact Multiset.mem_cons_self c hands
  obtain ⟨w, hw⟩ : ∃ w, w = K.world.updateMetadata c fun metadata =>
    metadata.checkIn K.world.now := ⟨_, rfl⟩
  have hkept : Kept { K with world := w } := by
    rw [hw]
    exact hK.updateMetadata hmem hl.known _
  have hpool : (w.connection c).pool = (K.world.connection c).pool := by
    rw [hw]
    exact (K.world.spares_updateMetadata c _).pool c
  have hbooks : w.pools = K.world.pools := by rw [hw]; rfl
  have hknown : w.pools.Known (K.world.connection c).pool := by
    rw [hbooks]
    exact hK.pool_known c hl.known
  rw [← hw]
  refine hkept.updatePool (fun d hd => ?_) (fun d hd => Or.inr ?_) fun hclosed => ?_
  · show d ∈ hands
      ∨ d ∈ ((w.updatePool (K.world.connection c).pool f).pool (w.connection d).pool).idle
    change d ∈ K.hands at hd
    rw [hh] at hd
    refine (Multiset.mem_cons.mp hd).symm.imp_right ?_
    rintro rfl
    rw [hpool, World.pool_updatePool_self hknown, hi]
    exact List.mem_cons_self
  · rw [hi]
    exact List.mem_cons_of_mem c hd
  · rw [World.pool, hbooks] at hclosed
    exact absurd hclosed hopen

/-- A pool starts with nothing waiting in it. -/
theorem Kept.found (hK : K.Kept) (pool : Pool) (hi : pool.idle = []) :
    Kept { K with world := { K.world with pools := K.world.pools.register pool } } := by
  have hread : ∀ q, q ≠ K.world.pools.next →
      (K.world.pools.register pool).get q = K.world.pool q := fun q hq => by
    rw [Registry.get_register, if_neg hq]
    rfl
  refine hK.pools rfl (fun _ => rfl) rfl
    (fun q hk => (Registry.known_register _ _ _).mpr (Or.inl hk)) (fun _ => Or.inl)
    (fun q d hd => Or.inr ?_) fun q hq => ?_
  · have hne : q ≠ K.world.pools.next := (Registry.next_ne (World.known_of_idle hd)).symm
    show d ∈ ((K.world.pools.register pool).get q).idle
    rw [hread q hne]
    exact hd
  · show ((K.world.pools.register pool).get q).idle = []
    by_cases hnew : q = K.world.pools.next
    · rw [hnew, Registry.get_register_next]
      exact hi
    · change ((K.world.pools.register pool).get q).closed = true at hq
      rw [hread q hnew] at hq ⊢
      exact hK.shut q hq

/-! ## The law of one move -/

/-- **Every move keeps the account.** -/
theorem Move.kept (h : Move K l K') (hK : K.Kept) : K'.Kept := by
  cases h with
  | still h => exact hK.exterior h.connections_size h.pools_size h.lines h.connection h.pool
  | write p hc hs hi =>
      refine hK.updatePool (fun _ => Or.inl) (fun d hd => Or.inr ?_) fun hp => ?_
      · rw [hi]
        exact hd
      · rw [hi]
        rw [hs] at hp
        exact hK.shut p hp
  | strike p l hc hs hi =>
      -- what is struck off is in hand, the rest waits as before
      refine hK.updatePool (fun d hd => Or.inl (Multiset.mem_add.mpr (Or.inr hd)))
        (fun d hd => ?_) fun hp => ?_
      · exact (List.mem_append.mp (hi.mem_iff.mp hd)).imp_left fun hl =>
          Multiset.mem_add.mpr (Or.inl (Multiset.mem_coe.mpr hl))
      · rw [hs] at hp
        rw [hK.shut p hp] at hi
        exact (List.append_eq_nil_iff.mp hi.nil_eq.symm).2
  | shut p hd ho hc hs hi =>
      exact hK.updatePool (fun d hd => Or.inl (Multiset.mem_add.mpr (Or.inr hd)))
        (fun d hd => Or.inl (Multiset.mem_add.mpr (Or.inl (Multiset.mem_coe.mpr hd))))
        fun _ => hi _
  | @dismiss p hd =>
      have h := K.world.unseen_tellListeners p .poolClosed
      exact hK.exterior h.connections_size h.pools_size h.lines h.connection h.pool
  | tearDown finalizing hh hl => exact hK.tearDown hh hl finalizing
  | enlist hp number => exact hK.enlist hp number _
  | misdial => exact hK.misdial
  | dial => exact hK.dial
  | cut => exact hK.cut _
  | @handOut c hh hl =>
      have h := World.unseen_tellChain (K.world.updateMetadata c fun metadata =>
        metadata.checkOut K.world.now) c (.attached c)
      exact (hK.updateMetadata hh hl.known _).exterior h.connections_size h.pools_size h.lines
        h.connection h.pool
  | putBack hh hl ho hc hs hi =>
      refine hK.putBack hh hl hi fun hclosed => ?_
      rw [hs] at hclosed
      exact nomatch ho.symm.trans hclosed
  | @found pool ho hi hn =>
      obtain ⟨w, hw⟩ : ∃ w, w = ({ K.world with pools := K.world.pools.register pool } : World) :=
        ⟨_, rfl⟩
      have hkept : Kept { K with world := w } := by
        rw [hw]
        exact hK.found pool hi
      have h := w.unseen_tellListeners K.world.pools.next .poolStarted
      rw [← hw]
      exact hkept.exterior h.connections_size h.pools_size h.lines h.connection h.pool

/-- **Any number of moves keep the account.** -/
theorem Moves.kept (h : Moves K l K') (hK : K.Kept) : K'.Kept := by
  induction h with
  | refl => exact hK
  | tail _ hm ih => exact hm.kept ih

end Custody

end ConnectionPool
