import ConnectionPool.Proofs.Closing.Reaching

/-!
# The disconnects of a command

A command disconnects connections one after the other: the one that a client takes out of its
pool or returns to a closed one, the idle ones that turn out to be invalid on a checkout, those
that are too old, and all idle ones when a pool closes. `Session.disconnects` lists them, each
with the world in which its teardown begins; it follows the operations of a pool branch by branch.

A disconnect happens in the course of the command (`Disconnect.During`): turns lead to the world
in which it begins, the connection is open there and can be torn down, and turns lead on from the
world in which the teardown ends to the end of the command.
-/

set_option autoImplicit false

namespace ConnectionPool

/-- **A disconnect**: a connection is torn down in a world, because its pool is closing or not. -/
structure Disconnect where
  connection : ConnectionId
  finalizing : Bool
  before : World

/-- The world in which the teardown ends. -/
def Disconnect.after (d : Disconnect) : World := World.teardown d.finalizing d.before d.connection

namespace World

/-! ## The disconnects of the operations of a pool -/

/-- Connections are torn down one after the other. -/
def teardowns (finalizing : Bool) : List ConnectionId → World → List Disconnect
  | [], _ => []
  | c :: rest, w => ⟨c, finalizing, w⟩ :: teardowns finalizing rest (teardown finalizing w c)

/-- A connection is taken out of its pool. -/
def retireDisconnects (w : World) (c : ConnectionId) : List Disconnect :=
  teardowns false [c] (w.freeSlot (w.connection c).pool)

/-- A connection is returned. -/
def checkInDisconnects (w : World) (c : ConnectionId) : List Disconnect :=
  if (w.pool (w.connection c).pool).closed || (w.connection c).metadata.state.isTerminal then
    w.retireDisconnects c
  else []

/-- Idle connections that turn out to be invalid are passed over. -/
def acquireDisconnects (p : PoolId) : List ConnectionId → World → List Disconnect
  | [], _ => []
  | c :: rest, w =>
      let w := w.updatePool p fun pool => { pool with idle := rest, inUse := pool.inUse + 1 }
      if (w.pool p).config.testOnCheckout && !w.isConnectionValid c then
        w.retireDisconnects c ++ acquireDisconnects p rest (w.retire c)
      else []

/-- A connection is checked out. -/
def checkOutDisconnects (w : World) (p : PoolId) : List Disconnect :=
  if (w.pool p).closed then [] else acquireDisconnects p (w.pool p).idle w

/-- The connections that are too old are taken out. -/
def sweepDisconnects (w : World) (p : PoolId) : List Disconnect :=
  teardowns false (w.expired p) (w.updatePool p fun pool =>
    { pool with
      idle := pool.idle.filter fun c => !w.isExpired p c
      total := pool.total - (w.expired p).length })

/-- A pool is closed. -/
def shutDownDisconnects (w : World) (p : PoolId) : List Disconnect :=
  if (w.pool p).closed then []
  else
    teardowns true (w.pool p).idle.reverse (w.updatePool p fun pool =>
      { pool with
        closed := true, idle := [], total := pool.total - (w.pool p).idle.reverse.length })

end World

/-- **The disconnects in the course of a command**, in order. -/
def Session.disconnects (s : Session) : Command → List Disconnect
  | .pool (.checkOut pool save) =>
      if s.guards.contains save then []
      else (s.pools.get? pool).elim [] s.world.checkOutDisconnects
  | .pool (.sweep pool) => (s.pools.get? pool).elim [] s.world.sweepDisconnects
  | .pool (.shutDown pool) => (s.pools.get? pool).elim [] s.world.shutDownDisconnects
  | .connection (.checkIn guard) => (s.guards.get? guard).elim [] s.world.checkInDisconnects
  | .connection (.retire guard) => (s.guards.get? guard).elim [] s.world.retireDisconnects
  | _ => []

namespace Session

variable {s : Session} {pool save guard : Name} {p : PoolId} {c : ConnectionId}

theorem disconnects_checkOut (hfree : s.guards.contains save = false)
    (hp : s.pools.get? pool = some p) :
    s.disconnects (.pool (.checkOut pool save)) = s.world.checkOutDisconnects p := by
  rw [disconnects, hfree, hp]
  rfl

theorem disconnects_sweep (hp : s.pools.get? pool = some p) :
    s.disconnects (.pool (.sweep pool)) = s.world.sweepDisconnects p := by
  rw [disconnects, hp]
  rfl

theorem disconnects_shutDown (hp : s.pools.get? pool = some p) :
    s.disconnects (.pool (.shutDown pool)) = s.world.shutDownDisconnects p := by
  rw [disconnects, hp]
  rfl

theorem disconnects_checkIn (hg : s.guards.get? guard = some c) :
    s.disconnects (.connection (.checkIn guard)) = s.world.checkInDisconnects c := by
  rw [disconnects, hg]
  rfl

theorem disconnects_retire (hg : s.guards.get? guard = some c) :
    s.disconnects (.connection (.retire guard)) = s.world.retireDisconnects c := by
  rw [disconnects, hg]
  rfl

end Session

namespace Scene

variable {S S' : Scene} {p : PoolId} {c : ConnectionId} {l : List ConnectionId}

/-- **A disconnect happens in the course of what leads from a scene to a world.** -/
structure During (S : Scene) (w : World) (d : Disconnect) : Prop where
  reached : Turns S (S.inWorld d.before)
  tidy : Tidy d.connection (S.inWorld d.before)
  live : d.before.Live d.connection
  later : Turns (S.inWorld d.after) (S.inWorld w)

/-- What leads to the scene, and on from the world, may be put before and after. -/
theorem During.extend {v w : World} {d : Disconnect} (h : During (S.inWorld v) w d)
    (hv : Turns S (S.inWorld v)) {w' : World} (hw : Turns (S.inWorld w) (S.inWorld w')) :
    During S w' d where
  reached := hv.trans h.reached
  tidy := h.tidy
  live := h.live
  later := Turns.trans h.later hw

/-- Nothing is parked on what is forgotten in the end. -/
theorem During.forget {w : World} {d : Disconnect} (h : During S w d) (l : List ConnectionId) :
    During S (l.foldl World.forget w) d := by
  have hafter := ((steps_teardown h.tidy d.finalizing).later_and_wired h.tidy.wired).2
  have hw : w.Wired S.lines S.own := (Turns.later_and_wired h.later hafter).2
  rw [hw.foldl_forget_eq]
  exact h

/-- **Some connections are doomed**: all of them are open, each is listed once and can be torn
down. -/
structure Doomed (l : List ConnectionId) (S : Scene) : Prop where
  tidy : ∀ c ∈ l, Tidy c S
  live : ∀ c ∈ l, S.world.Live c
  nodup : l.Nodup

theorem Wired.plugged (hS : S.Wired) : S.world.Plugged fun _ => False where
  known := hS.physical_known
  injective _ _ hc hd := hS.physical_inj hc hd
  raw_known _ h := h.elim
  raw_apart _ h := h.elim

/-- Nothing is done to connections. -/
theorem Doomed.steps (h : Doomed l S) {w : World} (hsteps : Steps S (S.inWorld w))
    (hlive : ∀ c ∈ l, S.world.Live c → w.Live c) : Doomed l (S.inWorld w) where
  tidy c hc := (h.tidy c hc).steps hsteps
  live c hc := hlive c hc (h.live c hc)
  nodup := h.nodup

/-- When the first is torn down, the rest are still doomed. -/
theorem Doomed.teardown (h : Doomed (c :: l) S) (finalizing : Bool) :
    Doomed l (S.inWorld (World.teardown finalizing S.world c)) := by
  have hc := h.tidy c List.mem_cons_self
  have hsteps := steps_teardown hc finalizing
  obtain ⟨hnotin, hnodup⟩ := List.nodup_cons.mp h.nodup
  have hspares := World.spares_teardown (Wired.plugged hc.wired) hc.known finalizing
  refine ⟨fun d hd => (h.tidy d (List.mem_cons_of_mem c hd)).steps hsteps, fun d hd => ?_, hnodup⟩
  refine hspares.live d (fun he => hnotin ?_) (h.live d (List.mem_cons_of_mem c hd))
  rw [← he]
  exact hd

/-! ## Disconnects in the course of the operations -/

theorem during_teardowns (finalizing : Bool) (l : List ConnectionId) :
    ∀ S : Scene, S.Wired → Doomed l S → ∀ d ∈ World.teardowns finalizing l S.world,
      During S (l.foldl (World.teardown finalizing) S.world) d := by
  induction l with
  | nil => exact fun _ _ _ d hd => absurd hd List.not_mem_nil
  | cons c rest ih =>
      intro S hS h d hd
      have hc := h.tidy c List.mem_cons_self
      have hsteps := steps_teardown hc finalizing
      have hS' := (hsteps.later_and_wired hS).2
      have hrest := h.teardown finalizing
      rcases List.mem_cons.mp hd with rfl | hd
      · exact ⟨.refl, hc, h.live c List.mem_cons_self,
          (steps_teardownAll finalizing hS' hrest.tidy).turns⟩
      · exact (ih _ hS' hrest d hd).extend hsteps.turns .refl

theorem during_retire (hc : Tidy c S) (hlive : S.world.Live c) :
    ∀ d ∈ S.world.retireDisconnects c, During S (S.world.retire c) d := by
  have hfree : Steps S (S.inWorld (S.world.freeSlot (S.world.connection c).pool)) :=
    .single (.book (S.world.sameCaching_freeSlot _))
  have hdoomed : Doomed [c] S := by
    refine ⟨fun d hd => ?_, fun d hd => ?_, List.nodup_singleton c⟩
    · rw [List.mem_singleton.mp hd]
      exact hc
    · rw [List.mem_singleton.mp hd]
      exact hlive
  have hfreed := hdoomed.steps hfree fun _ _ h => h.updatePool _ _
  intro d hd
  exact ((during_teardowns false [c] _ (hc.steps hfree).wired hfreed d hd).extend hfree.turns
    .refl).forget [c]

theorem during_checkIn (hc : Tidy c S) (hlive : S.world.Live c) :
    ∀ d ∈ S.world.checkInDisconnects c, During S (S.world.checkIn c) d := by
  intro d hd
  unfold World.checkInDisconnects at hd
  unfold World.checkIn
  simp only
  split at hd
  · next h =>
      rw [if_pos h]
      exact during_retire hc hlive d hd
  · exact absurd hd List.not_mem_nil

/-- **Looking for a connection to hand out.** The induction is on the idle connections that are
still to be looked at. -/
theorem during_acquire (l : List ConnectionId) :
    ∀ S : Scene, S.Wired → (S.world.pool p).closed = false → Doomed l S →
      (∀ c ∈ l, Of p c S.world) →
      ∀ d ∈ World.acquireDisconnects p l S.world, During S (World.acquire p l S.world).1 d := by
  induction l with
  | nil => exact fun _ _ _ _ _ d hd => absurd hd List.not_mem_nil
  | cons c rest ih =>
      intro S hS ho h hof d hd
      obtain ⟨v, hv⟩ : ∃ v, v = S.world.updatePool p fun pool =>
        { pool with idle := rest, inUse := pool.inUse + 1 } := ⟨_, rfl⟩
      have hnumbers : Steps S (S.inWorld v) := by
        rw [hv]
        refine .single (.book (S.world.sameCaching_updatePool p _ (fun _ => rfl) fun e he => ?_))
        obtain ⟨hknown, hpool⟩ := hof e (List.mem_cons_of_mem c he)
        exact Or.inr ⟨hknown, hpool, (h.tidy e (List.mem_cons_of_mem c he)).ready⟩
      have hdoomed : Doomed (c :: rest) (S.inWorld v) := by
        refine h.steps hnumbers fun _ _ hlive => ?_
        rw [hv]
        exact hlive.updatePool _ _
      have hc := hdoomed.tidy c List.mem_cons_self
      have hlive : v.Live c := hdoomed.live c List.mem_cons_self
      unfold World.acquireDisconnects at hd
      unfold World.acquire
      simp only [← hv] at hd ⊢
      split at hd
      · next hinvalid =>
          rw [if_pos hinvalid]
          -- the connection is retired, and the next one is looked at
          have hretire := steps_retire hc
          have hboth := hnumbers.trans hretire
          have hS' := (hboth.later_and_wired hS).2
          have ho' : ((v.retire c).pool p).closed = false := (hboth.pool_closed p).trans ho
          have hof' : ∀ e ∈ rest, Of p e (v.retire c) := fun e he =>
            (hof e (List.mem_cons_of_mem c he)).later (hboth.later_and_wired hS).1
          have hdoomed' : Doomed rest (S.inWorld (v.retire c)) := by
            have hfree : Steps (S.inWorld v) (S.inWorld (v.freeSlot (v.connection c).pool)) :=
              .single (.book (v.sameCaching_freeSlot _))
            have htorn := (hdoomed.steps hfree fun _ _ h => h.updatePool _ _).teardown false
            have hretired := retire_eq hc
            dsimp only [inWorld] at hretired
            rw [hretired]
            exact htorn
          have hidle : ∀ e ∈ rest, Tidy e (S.inWorld (v.retire c)) ∧ Of p e (v.retire c) :=
            fun e he => ⟨hdoomed'.tidy e he, hof' e he⟩
          rcases List.mem_append.mp hd with hd | hd
          · exact (during_retire hc hlive d hd).extend hnumbers.turns
              (steps_acquire rest _ hS' ho' hidle).1.turns
          · have hnext := ih _ hS' ho' hdoomed' hof' d hd
            exact hnext.extend (S := S) hboth.turns .refl
      · exact absurd hd List.not_mem_nil

theorem during_checkOut (hS : S.Wired) (hdoomed : Doomed (S.world.pool p).idle S) :
    ∀ d ∈ S.world.checkOutDisconnects p, During S (S.world.checkOut p).1 d := by
  intro d hd
  unfold World.checkOutDisconnects at hd
  unfold World.checkOut
  split at hd
  · exact absurd hd List.not_mem_nil
  · next ho =>
      rw [if_neg ho]
      have ho : (S.world.pool p).closed = false := by simpa using ho
      have hof : ∀ c ∈ (S.world.pool p).idle, Of p c S.world := fun c hc =>
        ⟨(hS.idle p c hc).1, (hS.idle p c hc).2.1⟩
      have hacquire := during_acquire _ S hS ho hdoomed hof d hd
      obtain ⟨hsteps, hfound⟩ := steps_acquire (S.world.pool p).idle S hS ho fun c hc =>
        ⟨hdoomed.tidy c hc, hof c hc⟩
      split
      · next w error hw =>
          rw [hw] at hacquire
          exact hacquire
      · next w c hw =>
          rw [hw] at hacquire hsteps hfound
          have hhand := (steps_handOut (hsteps.later_and_wired hS).2 (hfound c rfl)
            ((hsteps.pool_closed p).trans ho)).1
          exact hacquire.extend (S := S) .refl hhand.turns

theorem during_sweep (hS : S.Wired) (hdoomed : Doomed (S.world.pool p).idle S) :
    ∀ d ∈ S.world.sweepDisconnects p, During S (S.world.sweep p).1 d := by
  intro d hd
  obtain ⟨v, hv⟩ : ∃ v, v = S.world.updatePool p fun pool =>
      { pool with
        idle := pool.idle.filter fun c => !S.world.isExpired p c
        total := pool.total - (S.world.expired p).length } := ⟨_, rfl⟩
  have hnumbers : Steps S (S.inWorld v) := by
    rw [hv]
    exact .single (.book (S.world.sameCaching_updatePool p _ (fun _ => rfl) fun c hc =>
      Or.inl (List.mem_of_mem_filter hc)))
  have hidle : ∀ c ∈ S.world.expired p, c ∈ (S.world.pool p).idle := fun c hc =>
    List.mem_of_mem_filter (List.mem_reverse.mp hc)
  have hexpired : Doomed (S.world.expired p) S :=
    ⟨fun c hc => hdoomed.tidy c (hidle c hc), fun c hc => hdoomed.live c (hidle c hc),
      List.nodup_reverse.mpr (hdoomed.nodup.filter _)⟩
  have hstruck : Doomed (S.world.expired p) (S.inWorld v) := by
    refine hexpired.steps hnumbers fun c _ hlive => ?_
    rw [hv]
    exact hlive.updatePool _ _
  have hsweep : (S.world.sweep p).1 = (S.world.expired p).foldl World.forget
      ((S.world.expired p).foldl (World.teardown false) v) := by
    rw [hv]
    rfl
  unfold World.sweepDisconnects at hd
  rw [← hv] at hd
  rw [hsweep]
  exact ((during_teardowns false _ _ (hnumbers.later_and_wired hS).2 hstruck d hd).extend (S := S)
    hnumbers.turns .refl).forget _

theorem during_shutDown (hS : S.Wired) (hdoomed : Doomed (S.world.pool p).idle S) :
    ∀ d ∈ S.world.shutDownDisconnects p, During S (S.world.shutDown p) d := by
  intro d hd
  unfold World.shutDownDisconnects at hd
  split at hd
  · exact absurd hd List.not_mem_nil
  · next ho =>
      obtain ⟨v, hv⟩ : ∃ v, v = S.world.updatePool p fun pool =>
          { pool with
            closed := true, idle := []
            total := pool.total - (S.world.pool p).idle.reverse.length } := ⟨_, rfl⟩
      have hshut : S.world.shutDown p = (S.world.pool p).idle.reverse.foldl World.forget
          (((S.world.pool p).idle.reverse.foldl (World.teardown true) v).tellListeners p
            .poolClosed) := by
        rw [hv, World.shutDown, if_neg ho]
      have ho : (S.world.pool p).closed = false := by simpa using ho
      have hclose : Turns S (S.inWorld v) := by
        rw [hv]
        exact .single (.close p fun pool => pool.total - (S.world.pool p).idle.reverse.length)
      obtain ⟨hlater, hS₁⟩ := hclose.later_and_wired hS
      have hclosed : (v.pool p).closed = true := by
        rw [hv, World.pool_updatePool, if_pos ⟨rfl, S.world.known_of_pool_open ho⟩]
      have hstruck : Doomed (S.world.pool p).idle.reverse (S.inWorld v) := by
        refine ⟨fun c hc => ?_, fun c hc => ?_, List.nodup_reverse.mpr hdoomed.nodup⟩
        · have hidle := hdoomed.tidy c (List.mem_reverse.mp hc)
          exact ⟨hS₁, (hlater.connections c hidle.known).1,
            hlater.ready c hidle.known hidle.ready⟩
        · have hlive := hdoomed.live c (List.mem_reverse.mp hc)
          rw [hv]
          exact hlive.updatePool _ _
      have htear := steps_teardownAll true hS₁ hstruck.tidy
      rw [← hv] at hd
      rw [hshut]
      exact ((during_teardowns true _ _ hS₁ hstruck d hd).extend (S := S) hclose
        (turns_tellClosed ((htear.pool_closed p).trans hclosed))).forget _

end Scene

namespace Session

variable {s : Session} {S : Scene} {p : PoolId} {c : ConnectionId}

/-- The connections that wait in a pool can all be torn down. -/
theorem InOrder.doomed (h : s.InOrder S) (p : PoolId) :
    Scene.Doomed (S.world.pool p).idle S := by
  refine ⟨fun c hc => Scene.tidy_of_idle h.sound.wired hc, fun c hc => ?_, ?_⟩
  · rw [h.depicts.world] at hc ⊢
    exact (h.accounted.balanced.waiting p c hc).live
  · rw [h.depicts.world]
    exact h.accounted.balanced.idle_nodup p

/-- A connection that is checked out can be torn down, and is open. -/
theorem InOrder.tidy_of_guard (h : s.InOrder S) {guard : Name}
    (hg : s.guards.get? guard = some c) : Scene.Tidy c S ∧ S.world.Live c := by
  obtain ⟨hknown, hready⟩ := h.depicts.guards guard c hg
  rw [← h.depicts.world] at hknown hready
  refine ⟨⟨h.sound.wired, hknown, hready⟩, ?_⟩
  rw [h.depicts.world]
  exact h.accounted.live_guard hg

theorem mem_elim {α β : Type} {o : Option α} {f : α → List β} {b : β} (h : b ∈ o.elim [] f) :
    ∃ a, o = some a ∧ b ∈ f a := by
  cases o with
  | none => exact absurd h List.not_mem_nil
  | some a => exact ⟨a, rfl, h⟩

/-- **What a command disconnects, it disconnects in its course.** -/
theorem InOrder.during (h : s.InOrder S) (command : Command) :
    ∀ d ∈ s.disconnects command, S.During (s.run command).1.world d := by
  have hS := h.sound.wired
  have hworld := h.depicts.world
  intro d hd
  unfold disconnects at hd
  split at hd
  · next pool save =>
      split at hd
      · exact absurd hd List.not_mem_nil
      · next hfree =>
          obtain ⟨p, hp, hd⟩ := mem_elim hd
          rw [world_run_checkOut (Bool.eq_false_of_not_eq_true hfree) hp]
          rw [← hworld] at hd ⊢
          exact Scene.during_checkOut hS (h.doomed p) d hd
  · next pool =>
      obtain ⟨p, hp, hd⟩ := mem_elim hd
      rw [run_sweep hp]
      rw [← hworld] at hd ⊢
      exact Scene.during_sweep hS (h.doomed p) d hd
  · next pool =>
      obtain ⟨p, hp, hd⟩ := mem_elim hd
      rw [run_shutDown hp]
      rw [← hworld] at hd ⊢
      exact Scene.during_shutDown hS (h.doomed p) d hd
  · next guard =>
      obtain ⟨c, hg, hd⟩ := mem_elim hd
      obtain ⟨htidy, hlive⟩ := h.tidy_of_guard hg
      rw [run_checkIn hg]
      rw [← hworld] at hd ⊢
      exact Scene.during_checkIn htidy hlive d hd
  · next guard =>
      obtain ⟨c, hg, hd⟩ := mem_elim hd
      obtain ⟨htidy, hlive⟩ := h.tidy_of_guard hg
      rw [run_retire hg]
      rw [← hworld] at hd ⊢
      exact Scene.during_retire htidy hlive d hd
  · exact absurd hd List.not_mem_nil

end Session

end ConnectionPool
