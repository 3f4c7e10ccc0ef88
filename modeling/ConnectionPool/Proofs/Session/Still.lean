import ConnectionPool.Proofs.Client.Looks
import ConnectionPool.Proofs.Pool.Acquiring
import ConnectionPool.Proofs.Session.Effects

/-!
# Commands that leave the books alone

Most commands do nothing that a pool counts and let nobody hear of anything: calls, and whatever
is done with statements and caches. What they do is `Still`.
-/

set_option autoImplicit false

namespace ConnectionPool

namespace World

/-- **A change that no pool counts and nobody hears of**: pools and connections stay as they are
apart from what interceptors keep on them, and nothing is signalled. Time may pass. -/
structure Still (w w' : World) : Prop where
  clock : w.now ≤ w'.now
  lines : w'.driver.connections = w.driver.connections
  connections_size : w'.connections.size = w.connections.size
  pools_size : w'.pools.size = w.pools.size
  connection : ∀ c, (w'.connection c).exterior = (w.connection c).exterior
  pool : ∀ p, (w'.pool p).exterior = (w.pool p).exterior
  silent : Emits [] w w'
  acts : w.driver.Acts w'.driver

section Still

variable {w w' w'' : World}

theorem Still.refl (w : World) : Still w w where
  clock := le_rfl
  lines := rfl
  connections_size := rfl
  pools_size := rfl
  connection _ := rfl
  pool _ := rfl
  silent := .refl w
  acts := .refl _

theorem Still.trans (h : Still w w') (h' : Still w' w'') : Still w w'' where
  clock := h.clock.trans h'.clock
  lines := h'.lines.trans h.lines
  connections_size := h'.connections_size.trans h.connections_size
  pools_size := h'.pools_size.trans h.pools_size
  connection c := (h'.connection c).trans (h.connection c)
  pool p := (h'.pool p).trans (h.pool p)
  silent := h.silent.trans h'.silent
  acts := h.acts.trans h'.acts

/-- **What interceptors do** is of this kind. -/
theorem Deeds.still (h : Deeds w w') : Still w w' where
  clock := h.unseen.now.ge
  lines := h.unseen.lines
  connections_size := h.unseen.connections_size
  pools_size := h.unseen.pools_size
  connection := h.unseen.connection
  pool := h.unseen.pool
  silent := h.emits
  acts := h.unseen.acts

/-- What can be read off a connection from outside its chain. -/
theorem Still.read {β : Type} (h : Still w w') (read : Connection → β)
    (hr : ∀ connection : Connection, read connection.exterior = read connection)
    (c : ConnectionId) : read (w'.connection c) = read (w.connection c) :=
  read_congr (h.connection c) read hr

theorem Still.readPool {β : Type} (h : Still w w') (read : Pool → β)
    (hr : ∀ pool : Pool, read pool.exterior = read pool) (p : PoolId) :
    read (w'.pool p) = read (w.pool p) :=
  read_congr (h.pool p) read hr

theorem Still.spares (h : Still w w') : SparesAll w w' :=
  spares_of_exterior h.connections_size h.lines h.connection h.pool

theorem Still.quiet (h : Still w w') : Quiet w w' := h.silent.quiet

theorem still_newCache (w : World) (policy : CachePolicy) (fallible : Bool) :
    Still w (w.newCache policy fallible).1 :=
  { Still.refl w with silent := emits_none rfl rfl }

/-- Who shares a connection is of no account. -/
theorem still_share (w : World) (c : ConnectionId) : Still w (w.share c) :=
  { Still.refl w with silent := emits_none rfl rfl }

theorem still_unshare (w : World) (c : ConnectionId) : Still w (w.unshare c) := by
  have herase : Still w { w with shares := w.shares.erase c } :=
    { Still.refl w with silent := emits_none rfl rfl }
  exact herase.trans (deeds_forget _ c).still

theorem still_switch (w : World) (fault : Switch) : Still w (w.switch fault) :=
  { Still.refl w with silent := emits_none rfl rfl, acts := (Driver.Act.switch _).acts }

end Still

end World

namespace Session

/-- **A command that leaves the books alone.** -/
structure Still (s s' : Session) : Prop where
  world : s.world.Still s'.world
  guards : s'.guards = s.guards
  raw : s'.raw = s.raw

variable {s : Session}

theorem Still.refl (s : Session) : Still s s := ⟨.refl s.world, rfl, rfl⟩

theorem still_inWorld {w : World} (h : s.world.Still w) : Still s (s.inWorld w) := ⟨h, rfl, rfl⟩

theorem still_keepStatement {w : World} (h : s.world.Still w) (save : Option Name)
    (statement : Statement) (origin : Origin) :
    Still s ((s.inWorld w).keepStatement save statement origin) := by
  cases save with
  | none => exact ⟨h.trans (w.deeds_dropHandle statement).still, rfl, rfl⟩
  | some name => exact ⟨h, rfl, rfl⟩

theorem still_keepTracked {w : World} (h : s.world.Still w) (save : Option Name)
    (tracked : Tracked) : Still s ((s.inWorld w).keepTracked save tracked) := by
  cases save with
  | none => exact ⟨h.trans (World.deeds_dropTracked _ tracked).still, rfl, rfl⟩
  | some name => exact ⟨h, rfl, rfl⟩

/-! ## Calls -/

theorem CallEffect.still {c : ConnectionId} {call : Call} {save : Option Name} {s' : Session}
    (h : CallEffect s c call save s') : Still s s' := by
  have hperform := (s.world.deeds_perform c call).still
  cases h with
  | passed h =>
      rw [h] at hperform
      exact still_inWorld hperform
  | kept h =>
      rw [h] at hperform
      exact still_keepStatement hperform _ _ _

theorem still_runCall (s : Session) (c : ConnectionId) (call : Call) (into : Into)
    (save : Option Name) : Still s (s.runCall c call into save).1 :=
  (s.callEffect c call into save).still

/-! ## Statements -/

theorem StatementEffect.still {command : StatementCommand} {s' : Session}
    (h : StatementEffect s command s') : Still s s' := by
  cases h with
  | same => exact .refl s
  | bound hn =>
      exact still_inWorld (s.world.deeds_onTarget _ (.bind _ _) fun _ _ => rfl).still
  | cleared hn =>
      exact still_inWorld (s.world.deeds_onTarget _ .clearParameters fun _ _ => rfl).still
  | executed hn => exact still_inWorld (s.world.deeds_onTarget _ .execute fun _ _ => rfl).still
  | emptied hn => exact still_inWorld (s.world.deeds_closeResultSet _).still
  | closed hn => exact ⟨(World.deeds_close _ s.world).still, rfl, rfl⟩
  | dropped hn => exact ⟨(s.world.deeds_dropHandle _).still, rfl, rfl⟩
  | forceClosed hn ho => exact ⟨(s.world.deeds_forceCloseFacade _).still, rfl, rfl⟩

theorem TrackedEffect.still {command : TrackedCommand} {s' : Session}
    (h : TrackedEffect s command s') : Still s s' := by
  cases h with
  | same => exact .refl s
  | closed hn => exact ⟨(World.deeds_close _ s.world).still, rfl, rfl⟩
  | forceClosed hn => exact ⟨(World.deeds_close _ s.world).still, rfl, rfl⟩
  | dropped hn => exact ⟨(s.world.deeds_dropTracked _).still, rfl, rfl⟩
  | bound hn =>
      exact still_inWorld (s.world.deeds_onTarget _ (.bind _ _) fun _ _ => rfl).still
  | executed hn => exact still_inWorld (s.world.deeds_onTarget _ .execute fun _ _ => rfl).still
  | delegateClosed hn => exact ⟨(World.deeds_close _ s.world).still, rfl, rfl⟩
  | @faced name save tracked hn =>
      obtain ⟨hworld, hguards, hraw⟩ := still_keepStatement (s := s.takeTracked name)
        (.refl s.world) save tracked.facade .facade
      exact ⟨hworld, hguards, hraw⟩

/-! ## Caches -/

theorem Still.trans {s₁ s₂ s₃ : Session} (h : Still s₁ s₂) (h' : Still s₂ s₃) : Still s₁ s₃ :=
  ⟨h.world.trans h'.world, h'.guards.trans h.guards, h'.raw.trans h.raw⟩

theorem Sourced.still {source : StatementSource} {t : Session} {handle : Statement}
    (h : Sourced s source t handle) : Still s t := by
  cases h with
  | held hn => exact ⟨.refl s.world, rfl, rfl⟩
  | fresh sql =>
      exact still_inWorld
        (s.world.deeds_issue (.fresh sql none) (fun id => .prepared id sql) fun _ => rfl).still

theorem still_dropCache (name : Name) (k : CacheId) : Still s (s.dropCache name k) := by
  unfold dropCache
  simp only
  split
  · exact ⟨.refl s.world, rfl, rfl⟩
  · exact ⟨(s.world.deeds_rebind k none).still, rfl, rfl⟩

theorem CacheEffect.still {command : CacheCommand} {s' : Session}
    (h : CacheEffect s command s') : Still s s' := by
  cases h with
  | same => exact .refl s
  | created hread => exact ⟨s.world.still_newCache _ _, rfl, rfl⟩
  | cloned hk => exact ⟨.refl s.world, rfl, rfl⟩
  | dropped hk => exact still_dropCache _ _
  | started hp => exact still_inWorld (s.world.deeds_startCounting _).still
  | stopped hp => exact still_inWorld (s.world.deeds_stopCounting _).still
  | attached hp hk hc => exact still_inWorld (s.world.deeds_attach _ _ _).still
  | drained hp hk hc => exact still_inWorld (s.world.deeds_drain _ _ _).still
  | detached hk => exact still_inWorld (s.world.deeds_rebind _ none).still
  | failed k call hfree hk hcall h | missed k call hfree hk hcall h =>
      have hfetch := (s.world.deeds_fetch k call).still
      rw [h] at hfetch
      exact still_inWorld hfetch
  | fetched k call hfree hk hcall h =>
      have hfetch := (s.world.deeds_fetch k call).still
      rw [h] at hfetch
      exact still_keepTracked hfetch _ _
  | tracked k call t handle hk hcall hsource =>
      exact ⟨hsource.still.world, hsource.still.guards, hsource.still.raw⟩
  | unwrapped k call t handle hk hcall hsource h =>
      have hwrap := (t.world.deeds_wrapPrepared k handle call).still
      rw [h] at hwrap
      exact hsource.still.trans (still_inWorld hwrap)
  | wrapped k call t handle hk hcall hsource h =>
      have hwrap := (t.world.deeds_wrapPrepared k handle call).still
      rw [h] at hwrap
      exact hsource.still.trans (still_keepStatement hwrap _ _ _)
  | admitted keep k tracked hk hn h =>
      have hoffer := (s.world.deeds_offer k tracked).still
      rw [h] at hoffer
      exact ⟨hoffer, rfl, rfl⟩
  | kept k tracked hk hn h =>
      have hoffer := (s.world.deeds_offer k tracked).still
      rw [h] at hoffer
      exact still_inWorld hoffer
  | letGo k tracked hk hn h =>
      have hoffer := (s.world.deeds_offer k tracked).still
      rw [h] at hoffer
      exact ⟨hoffer.trans (World.deeds_dropTracked _ tracked).still, rfl, rfl⟩
  | absent k key hfree hk hcall hkey h =>
      have hwithdraw := (s.world.deeds_withdraw k key).still
      rw [h] at hwithdraw
      exact still_inWorld hwithdraw
  | withdrawn k key hfree hk hcall hkey h =>
      have hwithdraw := (s.world.deeds_withdraw k key).still
      rw [h] at hwithdraw
      exact still_keepTracked hwithdraw _ _

/-! ## The driver -/

theorem still_keepDriverStatement {made : World × Except DriverError StatementId}
    (h : s.world.Still made.1) (save : Option Name) :
    Still s (s.keepDriverStatement save made).1 := by
  obtain ⟨w, error | id⟩ := made
  · exact still_inWorld h
  · exact still_keepStatement h save _ _

end Session

end ConnectionPool
