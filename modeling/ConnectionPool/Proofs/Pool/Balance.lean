import ConnectionPool.Proofs.Pool.Heard

/-!
# The books of a pool

A pool counts its connections in three places: `total`, `inUse` and the list of the idle ones.
`World.Balanced w out` says that these agree with each other and with the connections `out` that
are checked out, and that every connection among them is open and in one place only. Tearing
connections down spares everything else (`World.Spares`), so that an operation of a pool keeps
the books balanced if it strikes a connection off before it tears it down.
-/

set_option autoImplicit false

namespace ConnectionPool

/-- **The numbers of a pool add up**, with so many connections checked out. -/
structure PoolStatus.Sums (status : PoolStatus) (out : Nat) : Prop where
  total : status.total = status.inUse + status.available
  limit : status.total ≤ status.limit
  inUse : status.inUse = out

namespace World

/-- How many of the connections `out` belong to a pool. -/
def taken (w : World) (out : Multiset ConnectionId) (p : PoolId) : Nat :=
  out.countP fun c => (w.connection c).pool = p

/-- **A connection is physically open**, as the pool sees it and as the driver does. -/
structure Live (w : World) (c : ConnectionId) : Prop where
  known : w.connections.Known c
  unclosed : (w.connection c).closed = false
  line : (w.driver.connection (w.connection c).physical).closed = false

/-- What is written in the books of a pool is nothing to a connection. -/
theorem Live.updatePool {w : World} {c : ConnectionId} (h : w.Live c) (p : PoolId)
    (f : Pool → Pool) : (w.updatePool p f).Live c :=
  ⟨h.known, h.unclosed, h.line⟩

/-- A connection that waits in a pool. -/
structure Waiting (w : World) (p : PoolId) (c : ConnectionId) : Prop where
  pool : (w.connection c).pool = p
  live : w.Live c
  state : (w.connection c).metadata.state = .idle

/-- **The books are balanced** when the connections `out` are checked out. -/
structure Balanced (w : World) (out : Multiset ConnectionId) : Prop where
  sums : ∀ p, (w.pool p).status.Sums (w.taken out p)
  out_nodup : out.Nodup
  out_live : ∀ c ∈ out, w.Live c
  idle_nodup : ∀ p, (w.pool p).idle.Nodup
  waiting : ∀ p, ∀ c ∈ (w.pool p).idle, w.Waiting p c
  apart : ∀ p, ∀ c ∈ (w.pool p).idle, c ∉ out

/-- **No two connections share a line** of the driver, and none has one that the client holds. -/
structure Plugged (w : World) (raw : PhysicalConnectionId → Prop) : Prop where
  known : ∀ c, w.connections.Known c → w.driver.connections.Known (w.connection c).physical
  injective : ∀ c d, w.connections.Known c → w.connections.Known d →
    (w.connection c).physical = (w.connection d).physical → c = d
  raw_known : ∀ line, raw line → w.driver.connections.Known line
  raw_apart : ∀ line, raw line → ∀ c, w.connections.Known c → (w.connection c).physical ≠ line

/-- **What happens to some connections only**: those of which `gone` holds. -/
structure Spares (gone : ConnectionId → Prop) (w w' : World) : Prop where
  size : w'.connections.size = w.connections.size
  lines : w.driver.connections.size ≤ w'.driver.connections.size
  idle : ∀ p, (w'.pool p).idle = (w.pool p).idle
  status : ∀ p, (w'.pool p).status = (w.pool p).status
  config : ∀ p, (w'.pool p).config = (w.pool p).config
  pool : ∀ c, (w'.connection c).pool = (w.connection c).pool
  physical : ∀ c, (w'.connection c).physical = (w.connection c).physical
  live : ∀ c, ¬ gone c → w.Live c → w'.Live c
  state : ∀ c, ¬ gone c → (w'.connection c).metadata.state = (w.connection c).metadata.state

/-- Nobody is affected. -/
abbrev SparesAll : World → World → Prop := Spares fun _ => False

section Spares

variable {gone gone' : ConnectionId → Prop} {w w' w'' : World}

theorem Spares.refl (w : World) : Spares gone w w where
  size := rfl
  lines := Nat.le_refl _
  idle _ := rfl
  status _ := rfl
  config _ := rfl
  pool _ := rfl
  physical _ := rfl
  live _ _ h := h
  state _ _ := rfl

theorem Spares.trans (h : Spares gone w w') (h' : Spares gone w' w'') : Spares gone w w'' where
  size := h'.size.trans h.size
  lines := h.lines.trans h'.lines
  idle p := (h'.idle p).trans (h.idle p)
  status p := (h'.status p).trans (h.status p)
  config p := (h'.config p).trans (h.config p)
  pool c := (h'.pool c).trans (h.pool c)
  physical c := (h'.physical c).trans (h.physical c)
  live c hc hl := h'.live c hc (h.live c hc hl)
  state c hc := (h'.state c hc).trans (h.state c hc)

theorem Spares.mono (h : Spares gone w w') (hg : ∀ c, gone c → gone' c) : Spares gone' w w' :=
  { h with
    live := fun c hc => h.live c fun hgc => hc (hg c hgc)
    state := fun c hc => h.state c fun hgc => hc (hg c hgc) }

theorem Spares.known (h : Spares gone w w') (c : ConnectionId) :
    w'.connections.Known c ↔ w.connections.Known c :=
  Registry.known_congr h.size c

theorem Spares.taken (h : Spares gone w w') (out : Multiset ConnectionId) (p : PoolId) :
    w'.taken out p = w.taken out p := by
  unfold World.taken
  simp only [h.pool]

/-- What interceptors keep is nothing that a pool counts. -/
theorem spares_of_exterior (hs : w'.connections.size = w.connections.size)
    (hl : w'.driver.connections = w.driver.connections)
    (hc : ∀ c, (w'.connection c).exterior = (w.connection c).exterior)
    (hp : ∀ p, (w'.pool p).exterior = (w.pool p).exterior) : Spares gone w w' := by
  have hphysical : ∀ c, (w'.connection c).physical = (w.connection c).physical := fun c =>
    read_congr (hc c) Connection.physical fun _ => rfl
  exact
    { size := hs
      lines := by rw [hl]
      idle := fun p => read_congr (hp p) Pool.idle fun _ => rfl
      status := fun p => read_congr (hp p) Pool.status fun _ => rfl
      config := fun p => read_congr (hp p) Pool.config fun _ => rfl
      pool := fun c => read_congr (hc c) Connection.pool fun _ => rfl
      physical := hphysical
      live := fun c _ hlive =>
        { known := (Registry.known_congr hs c).mpr hlive.known
          unclosed := (read_congr (hc c) Connection.closed fun _ => rfl).trans hlive.unclosed
          line := by
            unfold Driver.connection
            rw [hl, hphysical c]
            exact hlive.line }
      state := fun c _ => read_congr (hc c) (fun connection => connection.metadata.state)
        fun _ => rfl }

theorem Unseen.spares (h : w.Unseen w') : Spares gone w w' :=
  spares_of_exterior h.connections_size h.lines h.connection h.pool

theorem Unseen.sparesAll (h : w.Unseen w') : SparesAll w w' := h.spares

/-- **Balanced books stay balanced** if what happens spares what is checked out or waits. -/
theorem Balanced.spares {out : Multiset ConnectionId} (hw : w.Balanced out)
    (h : Spares gone w w') (hout : ∀ c ∈ out, gone c → w'.Live c)
    (hidle : ∀ p, ∀ c ∈ (w.pool p).idle, ¬ gone c) : w'.Balanced out where
  sums p := by
    rw [h.status p, h.taken out p]
    exact hw.sums p
  out_nodup := hw.out_nodup
  out_live c hc := by
    by_cases hg : gone c
    · exact hout c hc hg
    · exact h.live c hg (hw.out_live c hc)
  idle_nodup p := by
    rw [h.idle p]
    exact hw.idle_nodup p
  waiting p c hc := by
    rw [h.idle p] at hc
    obtain ⟨hpool, hlive, hstate⟩ := hw.waiting p c hc
    have hspared := hidle p c hc
    exact ⟨(h.pool c).trans hpool, h.live c hspared hlive, (h.state c hspared).trans hstate⟩
  apart p c hc := by
    rw [h.idle p] at hc
    exact hw.apart p c hc

theorem Balanced.sparesAll {out : Multiset ConnectionId} (hw : w.Balanced out)
    (h : SparesAll w w') : w'.Balanced out :=
  hw.spares h (fun _ _ => False.elim) fun _ _ _ => id

theorem Plugged.congr {raw : PhysicalConnectionId → Prop} (hw : w.Plugged raw)
    (hs : w'.connections.size = w.connections.size)
    (hp : ∀ c, (w'.connection c).physical = (w.connection c).physical)
    (hl : w.driver.connections.size ≤ w'.driver.connections.size) : w'.Plugged raw := by
  have hlines : ∀ line, w.driver.connections.Known line → w'.driver.connections.Known line :=
    fun line hk => ⟨hk.1, hk.2.trans hl⟩
  have hknown : ∀ c, w'.connections.Known c → w.connections.Known c := fun c =>
    (Registry.known_congr hs c).mp
  refine ⟨fun c hc => ?_, fun c d hc hd he => ?_, fun line hr => hlines line (hw.raw_known line hr),
    fun line hr c hc => ?_⟩
  · rw [hp c]
    exact hlines _ (hw.known c (hknown c hc))
  · rw [hp c, hp d] at he
    exact hw.injective c d (hknown c hc) (hknown d hd) he
  · rw [hp c]
    exact hw.raw_apart line hr c (hknown c hc)

theorem Plugged.spares {raw : PhysicalConnectionId → Prop} (hw : w.Plugged raw)
    (h : Spares gone w w') : w'.Plugged raw :=
  hw.congr h.size h.physical h.lines

end Spares

/-! ## Tearing down -/

section Teardown

variable {w : World} {raw : PhysicalConnectionId → Prop} {c : ConnectionId}

theorem spares_updateMetadata (w : World) (c : ConnectionId) (f : Metadata → Metadata) :
    Spares (· = c) w (w.updateMetadata c f) where
  size := Registry.size_modify _ _ _
  lines := Nat.le_refl _
  idle _ := rfl
  status _ := rfl
  config _ := rfl
  pool := w.connection_updateConnection_congr c _ Connection.pool fun _ => rfl
  physical := w.connection_updateConnection_congr c _ Connection.physical fun _ => rfl
  live d hd hl := by
    have hsame : (w.updateMetadata c f).connection d = w.connection d :=
      w.connections.get_modify_of_ne _ fun h => hd h.symm
    refine ⟨(Registry.known_modify _ _ _ _).mpr hl.known, ?_, ?_⟩
    · rw [hsame]
      exact hl.unclosed
    · rw [hsame]
      exact hl.line
  state d hd := by
    have hsame : (w.updateMetadata c f).connection d = w.connection d :=
      w.connections.get_modify_of_ne _ fun h => hd h.symm
    rw [hsame]

/-- **A relation that lasts** while connections are torn down: what interceptors do keeps it, and so
do a state that is recorded and a connection that is hung up. -/
structure Lasts (R : World → World → Prop) : Prop where
  trans : ∀ {w w' w'' : World}, R w w' → R w' w'' → R w w''
  unseen : ∀ {w w' : World}, w.Unseen w' → R w w'
  enter : ∀ w c state, R w (w.updateMetadata c fun metadata => metadata.enter state)
  hangUp : ∀ w c, R w (w.hangUp c)

/-- Something that can be read off the world and stays as it is. -/
theorem lasts_read {β : Type} (read : World → β)
    (hunseen : ∀ {w w' : World}, w.Unseen w' → read w' = read w)
    (henter : ∀ w c state, read (w.updateMetadata c fun metadata => metadata.enter state) = read w)
    (hhangUp : ∀ w c, read (w.hangUp c) = read w) : Lasts fun w w' => read w' = read w :=
  ⟨fun h h' => h'.trans h, hunseen, henter, hhangUp⟩

section Lasts

variable {R : World → World → Prop}

theorem Lasts.teardown (h : Lasts R) (finalizing : Bool) (w : World) (c : ConnectionId) :
    R w (teardown finalizing w c) := by
  have htold := h.trans (h.enter w c .closing)
    (h.unseen (unseen_tellChain _ c (.disconnected c finalizing)))
  have hdetached := h.trans (h.trans htold (h.hangUp _ c))
    (h.unseen (unseen_tellChain _ c (.detached c)))
  exact h.trans hdetached (h.enter _ c .closed)

theorem Lasts.teardownAll (h : Lasts R) (finalizing : Bool) (l : List ConnectionId) :
    ∀ w : World, R w (l.foldl (World.teardown finalizing) w) := by
  induction l with
  | nil => exact fun w => h.unseen (.refl w)
  | cons c rest ih => exact fun w => h.trans (h.teardown finalizing w c) (ih _)

theorem size_connections_hangUp (w : World) (c : ConnectionId) :
    (w.hangUp c).connections.size = w.connections.size := by
  unfold hangUp
  split
  · rfl
  · exact Registry.size_modify _ _ _

theorem lasts_size_connections :
    Lasts fun w w' => w'.connections.size = w.connections.size :=
  lasts_read (fun w => w.connections.size) Unseen.connections_size
    (fun _ _ _ => Registry.size_modify _ _ _) size_connections_hangUp

end Lasts

/-- Hanging up an open connection closes it and its line. -/
theorem hangUp_of_live (h : w.Live c) :
    w.hangUp c = { w.updateConnection c fun connection => { connection with closed := true } with
      driver := w.driver.closeConnection (w.connection c).physical } := by
  rw [World.hangUp, h.unclosed]
  rfl

/-- The line that is closed is logged. -/
theorem log_hangUp (h : w.Live c) :
    (w.hangUp c).driver.log = w.driver.log ++ [.connectionClosed (w.connection c).physical] := by
  rw [hangUp_of_live h]
  show (w.driver.closeConnection (w.connection c).physical).log = _
  rw [Driver.closeConnection, h.line]
  rfl

/-- Hanging up closes one line, which is no other connection's. -/
theorem spares_hangUp (hw : w.Plugged raw) (hc : w.connections.Known c) :
    Spares (· = c) w (w.hangUp c) := by
  unfold hangUp
  split
  · exact .refl w
  · have hother : ∀ d, ¬ d = c → ((w.updateConnection c fun connection =>
        { connection with closed := true }).connection d) = w.connection d :=
      fun d hd => w.connections.get_modify_of_ne _ fun h => hd h.symm
    refine
      { size := Registry.size_modify _ _ _
        lines := (Driver.size_connections_closeConnection _ _).ge
        idle := fun _ => rfl
        status := fun _ => rfl
        config := fun _ => rfl
        pool := w.connection_updateConnection_congr c _ Connection.pool fun _ => rfl
        physical := w.connection_updateConnection_congr c _ Connection.physical fun _ => rfl
        live := fun d hd hl => ?_
        state := fun d hd => congrArg (fun connection => connection.metadata.state) (hother d hd) }
    refine ⟨(Registry.known_modify _ _ _ _).mpr hl.known, ?_, ?_⟩
    · exact (congrArg Connection.closed (hother d hd)).trans hl.unclosed
    · have hline : (w.connection c).physical ≠ (w.connection d).physical :=
        fun he => hd (hw.injective c d hc hl.known he).symm
      show ((w.driver.closeConnection (w.connection c).physical).connection
        ((w.updateConnection c _).connection d).physical).closed = false
      rw [hother d hd, Driver.closed_closeConnection, hl.line, decide_eq_false hline,
        Bool.or_false]

/-- **Tearing a connection down spares all others.** -/
theorem spares_teardown (hw : w.Plugged raw) (hc : w.connections.Known c) (finalizing : Bool) :
    Spares (· = c) w (teardown finalizing w c) := by
  have hclosing := w.spares_updateMetadata c fun metadata => metadata.enter .closing
  have htold := hclosing.trans (unseen_tellChain _ c (.disconnected c finalizing)).spares
  have hhung := htold.trans (spares_hangUp (hw.spares htold) ((htold.known c).mpr hc))
  have hdetached := hhung.trans (unseen_tellChain _ c (.detached c)).spares
  exact hdetached.trans (spares_updateMetadata _ c fun metadata => metadata.enter .closed)

theorem spares_teardownAll {l : List ConnectionId} (finalizing : Bool) :
    ∀ {w : World}, w.Plugged raw → (∀ c ∈ l, w.connections.Known c) →
      Spares (· ∈ l) w (l.foldl (teardown finalizing) w) := by
  induction l with
  | nil => exact fun _ _ => .refl _
  | cons c rest ih =>
      intro w hw hl
      have hfirst := spares_teardown hw (hl c List.mem_cons_self) finalizing
      have hrest := ih (hw.spares hfirst) fun d hd =>
        (hfirst.known d).mpr (hl d (List.mem_cons_of_mem _ hd))
      refine (hfirst.mono ?_).trans (hrest.mono ?_)
      · rintro d rfl
        exact List.mem_cons_self
      · exact fun d hd => List.mem_cons_of_mem _ hd

end Teardown

end World

end ConnectionPool
