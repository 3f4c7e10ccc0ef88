import ConnectionPool.Proofs.Closing.Disconnects

/-!
# What is not disconnected stays open

`Session.disconnects` lists all disconnects: a connection that is open before a command and not
among those that the command disconnects is open after it (`Accounted.openBut`). This holds of
every command, those about caches of a client's own included.
-/

set_option autoImplicit false

namespace ConnectionPool

namespace World

/-- **What is open stays open**, but for the connections that are disconnected. -/
def OpenBut (disconnects : List Disconnect) (w w' : World) : Prop :=
  ∀ c, w.Live c → (∃ d ∈ disconnects, d.connection = c) ∨ w'.Live c

variable {w w' w'' : World} {p : PoolId} {c : ConnectionId} {raw : PhysicalConnectionId → Prop}
  {disconnects disconnects' : List Disconnect}

theorem openBut_of_live (h : ∀ c, w.Live c → w'.Live c) : OpenBut disconnects w w' :=
  fun c hc => Or.inr (h c hc)

theorem OpenBut.append (h : OpenBut disconnects w w') (h' : OpenBut disconnects' w' w'') :
    OpenBut (disconnects ++ disconnects') w w'' := by
  intro c hc
  rcases h c hc with ⟨d, hd, hdc⟩ | hc
  · exact Or.inl ⟨d, List.mem_append_left _ hd, hdc⟩
  · rcases h' c hc with ⟨d, hd, hdc⟩ | hc
    · exact Or.inl ⟨d, List.mem_append_right _ hd, hdc⟩
    · exact Or.inr hc

/-- What comes before and after may do nothing to what is open. -/
theorem OpenBut.extend (h : OpenBut disconnects w w') {v v' : World}
    (hv : ∀ c, v.Live c → w.Live c) (hv' : ∀ c, w'.Live c → v'.Live c) :
    OpenBut disconnects v v' :=
  fun c hc => (h c (hv c hc)).imp_right (hv' c)

theorem live_updateMetadata (d : ConnectionId) (f : Metadata → Metadata) (hc : w.Live c) :
    (w.updateMetadata d f).Live c := by
  have hclosed := w.connection_updateConnection_congr d
    (fun connection => { connection with metadata := f connection.metadata }) Connection.closed
    (fun _ => rfl) c
  have hphysical := w.connection_updateConnection_congr d
    (fun connection => { connection with metadata := f connection.metadata }) Connection.physical
    (fun _ => rfl) c
  refine ⟨(Registry.known_modify _ _ _ _).mpr hc.known, hclosed.trans hc.unclosed, ?_⟩
  show (w.driver.connection ((w.updateMetadata d f).connection c).physical).closed = false
  rw [show ((w.updateMetadata d f).connection c).physical = _ from hphysical]
  exact hc.line

theorem SparesAll.live (h : SparesAll w w') (hc : w.Live c) : w'.Live c := Spares.live h c id hc

/-! ## The operations of a pool -/

theorem mem_teardowns (finalizing : Bool) (l : List ConnectionId) :
    ∀ w : World, c ∈ l → ∃ d ∈ teardowns finalizing l w, d.connection = c := by
  induction l with
  | nil => exact fun _ h => absurd h List.not_mem_nil
  | cons first rest ih =>
      intro w h
      rcases List.mem_cons.mp h with rfl | h
      · exact ⟨_, List.mem_cons_self, rfl⟩
      · obtain ⟨d, hd, hdc⟩ := ih (teardown finalizing w first) h
        exact ⟨d, List.mem_cons_of_mem _ hd, hdc⟩

theorem openBut_teardowns (hw : w.Plugged raw) {l : List ConnectionId}
    (hl : ∀ c ∈ l, w.connections.Known c) (finalizing : Bool) :
    OpenBut (teardowns finalizing l w) w (l.foldl (teardown finalizing) w) := by
  intro c hc
  by_cases h : c ∈ l
  · exact Or.inl (mem_teardowns finalizing l w h)
  · exact Or.inr ((spares_teardownAll finalizing hw hl).live c h hc)

theorem openBut_retire (hw : w.Plugged raw) (hc : w.connections.Known c) :
    OpenBut (w.retireDisconnects c) w (w.retire c) := by
  have hfreed : (w.freeSlot (w.connection c).pool).Plugged raw := hw.updatePool _ _
  have htorn := openBut_teardowns (l := [c]) hfreed
    (fun d hd => List.mem_singleton.mp hd ▸ hc) false
  exact htorn.extend (fun _ h => h.updatePool _ _) fun _ =>
    (unseen_forget _ c).sparesAll.live

theorem openBut_checkIn (hw : w.Plugged raw) (hc : w.connections.Known c) :
    OpenBut (w.checkInDisconnects c) w (w.checkIn c) := by
  unfold checkInDisconnects checkIn
  simp only
  split
  · exact openBut_retire hw hc
  · exact openBut_of_live fun _ hd => (live_updateMetadata _ _ hd).updatePool _ _

/-- A new connection that is opened, or not, does nothing to those that there are. -/
theorem live_extend (hw : w.Plugged raw) (p : PoolId) (hc : w.Live c) :
    (w.extend p).1.Live c := by
  by_cases hlimit : (w.pool p).total < (w.pool p).config.maxConnections
  · obtain ⟨v, result, hv⟩ : ∃ v result,
      (w.updatePool p Pool.takeSlot).openConnection p = (v, result) := ⟨_, _, rfl⟩
    have hopens := opens (hw.updatePool p Pool.takeSlot) p
    have htook : (w.updatePool p Pool.takeSlot).Live c := hc.updatePool _ _
    rw [hv] at hopens
    cases result with
    | error error =>
        rw [extend_error hlimit hv]
        obtain ⟨hspares, -⟩ | ⟨_, hok, -⟩ := hopens
        · exact (hspares.live htook).updatePool _ _
        · exact nomatch hok
    | ok d =>
        rw [extend_ok hlimit hv]
        obtain ⟨-, -, -, _, herror⟩ | ⟨_, -, hadds⟩ := hopens
        · exact nomatch herror
        · exact hadds.live htook
  · rw [extend_of_full (Nat.le_of_not_lt hlimit)]
    exact hc

/-- The induction is on the idle connections that are still to be looked at. -/
theorem openBut_acquire (l : List ConnectionId) :
    ∀ w : World, w.Plugged raw → (∀ c ∈ l, w.connections.Known c) →
      OpenBut (acquireDisconnects p l w) w (acquire p l w).1 := by
  induction l with
  | nil => exact fun w hw _ => openBut_of_live fun _ => live_extend hw p
  | cons c rest ih =>
      intro w hw hl
      obtain ⟨v, hv⟩ : ∃ v, v = w.updatePool p fun pool =>
        { pool with idle := rest, inUse := pool.inUse + 1 } := ⟨_, rfl⟩
      have hwrite : ∀ d, w.Live d → v.Live d := by
        rw [hv]
        exact fun _ h => h.updatePool _ _
      have hplugged : v.Plugged raw := hv ▸ hw.updatePool p _
      have hknown : ∀ d ∈ c :: rest, v.connections.Known d := hv ▸ hl
      unfold acquireDisconnects acquire
      simp only [← hv]
      split
      · have hc := hknown c List.mem_cons_self
        have hretire := spares_retire hplugged hc
        have hrest := ih (v.retire c) ((hplugged.updatePool _ _).spares hretire) fun d hd =>
          (hretire.known d).mpr (hknown d (List.mem_cons_of_mem _ hd))
        exact ((openBut_retire hplugged hc).append hrest).extend hwrite fun _ => id
      · exact openBut_of_live hwrite

theorem openBut_checkOut (hw : w.Plugged raw) (hidle : ∀ c ∈ (w.pool p).idle,
    w.connections.Known c) : OpenBut (w.checkOutDisconnects p) w (w.checkOut p).1 := by
  unfold checkOutDisconnects checkOut
  split
  · exact openBut_of_live fun _ => id
  · have hacquire := openBut_acquire (p := p) _ w hw hidle
    split
    · next hv =>
        rw [hv] at hacquire
        exact hacquire
    · next v c hv =>
        rw [hv] at hacquire
        exact hacquire.extend (fun _ => id) fun d hd =>
          (unseen_tellChain _ c _).sparesAll.live (live_updateMetadata c _ hd)

theorem openBut_sweep (hw : w.Plugged raw) (hidle : ∀ c ∈ (w.pool p).idle,
    w.connections.Known c) : OpenBut (w.sweepDisconnects p) w (w.sweep p).1 := by
  have hexpired : ∀ c ∈ w.expired p, w.connections.Known c := fun c hc =>
    hidle c (List.mem_of_mem_filter (List.mem_reverse.mp hc))
  have htorn := openBut_teardowns (hw.updatePool p fun pool =>
    { pool with
      idle := pool.idle.filter fun c => !w.isExpired p c
      total := pool.total - (w.expired p).length }) hexpired false
  exact htorn.extend (fun _ h => h.updatePool _ _) fun _ =>
    (unseen_forgetAll (w.expired p) _).sparesAll.live

theorem openBut_shutDown (hw : w.Plugged raw) (hidle : ∀ c ∈ (w.pool p).idle,
    w.connections.Known c) : OpenBut (w.shutDownDisconnects p) w (w.shutDown p) := by
  unfold shutDownDisconnects shutDown
  split
  · exact openBut_of_live fun _ => id
  · have htorn := openBut_teardowns (hw.updatePool p fun pool =>
      { pool with
        closed := true, idle := [], total := pool.total - (w.pool p).idle.reverse.length })
      (fun c hc => hidle c (List.mem_reverse.mp hc)) true
    exact htorn.extend (fun _ h => h.updatePool _ _) fun _ =>
      ((unseen_tellListeners _ _ _).trans
        (unseen_forgetAll (w.pool p).idle.reverse _)).sparesAll.live

theorem live_startPool (config : PoolConfig) (hc : w.Live c) : (w.startPool config).1.Live c := by
  obtain ⟨error, h⟩ | ⟨sources, h⟩ := w.startPool_cases config
  · rw [h]
    exact hc
  · rw [h]
    have hfounded : (w.founded config sources).Live c := ⟨hc.known, hc.unclosed, hc.line⟩
    exact (unseen_tellListeners _ _ _).sparesAll.live hfounded

end World

namespace Session

variable {s : Session} {p : PoolId} {c : ConnectionId} {name : Name}

/-! ## The commands of a session -/

/-- What a command leaves alone stays open. -/
theorem Still.openBut {s' : Session} (h : Still s s') {disconnects : List Disconnect} :
    World.OpenBut disconnects s.world s'.world :=
  World.openBut_of_live fun _ => h.world.spares.live

theorem Accounted.known_idle (h : s.Accounted) (p : PoolId) :
    ∀ c ∈ (s.world.pool p).idle, s.world.connections.Known c :=
  fun c hc => (h.balanced.waiting p c hc).live.known

/-- **What a command does not disconnect stays open.** -/
theorem Accounted.openBut (h : s.Accounted) (command : Command) :
    World.OpenBut (s.disconnects command) s.world (s.run command).1.world := by
  have hdealing := s.dealing_run command
  generalize (s.run command).1 = s' at hdealing ⊢
  cases hdealing with
  | still hstill => exact hstill.openBut
  | start config hworld hguards hraw =>
      rw [hworld]
      exact World.openBut_of_live fun _ => World.live_startPool config
  | @refused pool save p w error hfree hp hw =>
      have hchecked := World.openBut_checkOut h.plugged (h.known_idle p)
      rw [← disconnects_checkOut hfree hp, hw] at hchecked
      exact hchecked
  | @granted pool save p w c hfree hp hw =>
      have hchecked := World.openBut_checkOut h.plugged (h.known_idle p)
      rw [← disconnects_checkOut hfree hp, hw] at hchecked
      exact hchecked
  | @sweep pool p hp =>
      rw [disconnects_sweep hp]
      exact World.openBut_sweep h.plugged (h.known_idle p)
  | @shutDown pool p hp =>
      rw [disconnects_shutDown hp]
      exact World.openBut_shutDown h.plugged (h.known_idle p)
  | @checkIn guard c hg =>
      rw [disconnects_checkIn hg]
      exact World.openBut_checkIn h.plugged (h.live_guard hg).known
  | @retire guard c hg =>
      rw [disconnects_retire hg]
      exact World.openBut_retire h.plugged (h.live_guard hg).known
  | dial => exact World.openBut_of_live fun _ => s.world.sparesAll_openLine.live
  | @cut name line hline =>
      exact World.openBut_of_live fun _ =>
        (s.world.sparesAll_closeLine (h.plugged.raw_apart line ⟨name, hline⟩)).live

end Session

end ConnectionPool
