import ConnectionPool.Proofs.Closing.Reaching
import ConnectionPool.Proofs.Custody.Ledger
import ConnectionPool.Proofs.Custody.Operations
import ConnectionPool.Proofs.Custody.Telling
import ConnectionPool.Proofs.Pool.Unheld

/-!
# Custody over whole runs

Every command of a client is a number of moves of the custody of connections (`Accounted.moves`),
and so is every change in the order of the entries of a store. What holds of moves therefore holds
of every session that a client comes to, with caches of its own or without (`Session.Proceeds`):
connections and lines are accounted for, all that happens to them is told, and the log is a faithful
ledger of lines (`Session.Documented`).
-/

set_option autoImplicit false

namespace ConnectionPool

open Custody (Moves Move Continues holding)

namespace World

/-! ## No new connections -/

theorem size_connections_checkIn (w : World) (c : ConnectionId) :
    (w.checkIn c).connections.size = w.connections.size := by
  unfold checkIn
  simp only
  split
  · exact w.size_connections_retire c
  · exact Registry.size_modify _ _ _

theorem size_connections_sweep (w : World) (p : PoolId) :
    (w.sweep p).1.connections.size = w.connections.size :=
  (unseen_forgetAll (w.expired p) _).connections_size.trans
    (lasts_size_connections.teardownAll false (w.expired p) _)

theorem size_connections_shutDown (w : World) (p : PoolId) :
    (w.shutDown p).connections.size = w.connections.size := by
  unfold shutDown
  split
  · rfl
  · exact ((unseen_tellListeners _ p .poolClosed).trans
      (unseen_forgetAll (w.pool p).idle.reverse _)).connections_size.trans
        (lasts_size_connections.teardownAll true _ _)

theorem size_connections_startPool (w : World) (config : PoolConfig) :
    (w.startPool config).1.connections.size = w.connections.size := by
  obtain ⟨error, h⟩ | ⟨sources, h⟩ := w.startPool_cases config
  · rw [h]
  · rw [h]
    exact (unseen_tellListeners _ _ .poolStarted).connections_size

end World

namespace Session

variable {s t : Session} {c : ConnectionId} {p : PoolId}

/-- **The custody of a client**: what it holds guards of is in its hands, and the lines that it has
names for are its own. -/
def custody (s : Session) : Custody := holding s.world s.out s.HoldsLine

theorem custody_of_out {s' : Session} {out : Multiset ConnectionId} (hout : s'.out = out)
    (hraw : s'.raw = s.raw) : s'.custody = holding s'.world out s.HoldsLine := by
  have hlines : s'.HoldsLine = s.HoldsLine := by
    funext line
    rw [HoldsLine, hraw, HoldsLine]
  rw [custody, hlines, hout]

/-- A client that keeps its guards keeps what it has in hand. -/
theorem custody_of_guards {s' : Session} (hguards : s'.guards = s.guards) (hraw : s'.raw = s.raw) :
    s'.custody = holding s'.world s.out s.HoldsLine :=
  custody_of_out (by rw [out, hguards, out]) hraw

/-- A line that the client opens under a free name is one more line of its own. -/
theorem holdsLine_insert {save : Name} (hfree : s.raw.contains save = false)
    (line : PhysicalConnectionId) :
    ({ s with raw := s.raw.insert save line } : Session).HoldsLine
      = fun other => other = line ∨ s.HoldsLine other := by
  funext other
  refine propext ⟨?_, ?_⟩
  · rintro ⟨name, hname⟩
    exact (Table.get?_insert_eq_some _ hname).imp_right fun h => ⟨name, h⟩
  · rintro (rfl | ⟨name, hname⟩)
    · exact ⟨save, Table.get?_insert_self _ _ _⟩
    · refine ⟨name, (Table.get?_insert_of_ne _ _ ?_).trans hname⟩
      rintro rfl
      rw [(Table.contains_eq_false_iff _ _).mp hfree] at hname
      exact nomatch hname

/-- **Every command is a number of moves.** -/
theorem Accounted.moves (hs : s.Accounted) (command : Command) :
    ∃ l, Moves s.custody l (s.run command).1.custody := by
  have hdealing := s.dealing_run command
  generalize (s.run command).1 = s' at hdealing ⊢
  cases hdealing with
  | still h =>
      rw [custody_of_guards h.guards h.raw]
      exact ⟨[], (Move.still h.world).moves⟩
  | start config hworld hguards hraw =>
      rw [custody_of_guards hguards hraw, hworld]
      exact Custody.moves_startPool s.world config
  | @refused pool save p w error hfree hp h =>
      obtain ⟨⟨l, hmoves⟩, -⟩ := Custody.brings_checkOut hs.balanced hs.plugged p
      rw [h] at hmoves
      exact ⟨l, hmoves⟩
  | @granted pool save p w c hfree hp h =>
      -- what was in hand is held by the guard now
      obtain ⟨⟨l, hmoves⟩, -⟩ := Custody.brings_checkOut hs.balanced hs.plugged p
      rw [h] at hmoves
      have hcustody : custody { s.inWorld w with guards := s.guards.insert save c }
          = holding w (c ::ₘ s.out) s.HoldsLine :=
        custody_of_out (s := s)
          (out_insert (s.inWorld w) c ((Table.contains_eq_false_iff _ _).mp hfree)) rfl
      refine ⟨l, ?_⟩
      rw [hcustody]
      exact hmoves
  | @shutDown pool p hp =>
      -- a pool that is closed already does nothing
      cases hclosed : (s.world.pool p).closed with
      | true =>
          rw [World.shutDown_of_closed hclosed]
          exact ⟨[], .refl⟩
      | false => exact ⟨_, Custody.moves_shutDown hs.balanced hs.plugged hclosed⟩
  | sweep hp => exact ⟨_, Custody.moves_sweep hs.balanced hs.plugged _⟩
  | checkIn hg =>
      rw [custody, out_erase hg]
      exact Custody.moves_checkIn (hs.live_guard hg)
  | retire hg =>
      rw [custody, out_erase hg]
      exact ⟨_, Custody.moves_retire (hs.live_guard hg)⟩
  | dial hfree =>
      refine ⟨[.opened s.world.driver.connections.next], Move.moves ?_⟩
      have hdial : Move s.custody [.opened s.world.driver.connections.next]
          (holding { s.world with driver := s.world.driver.openConnection.1 } s.out
            fun line => line = s.world.driver.connections.next ∨ s.HoldsLine line) := .dial
      rw [← holdsLine_insert hfree] at hdial
      exact hdial
  | @cut name line hline =>
      have hcut : Move s.custody _ _ := .cut (⟨name, hline⟩ : s.HoldsLine line)
      exact ⟨_, hcut.moves⟩

/-- **Only a checkout brings a new connection**, and hands it out. -/
theorem Accounted.newConnection (hs : s.Accounted) {command : Command}
    (hk : (s.run command).1.world.connections.Known c) (hn : ¬ s.world.connections.Known c) :
    ∃ pool save p w, command = .pool (.checkOut pool save) ∧ s.pools.get? pool = some p
      ∧ s.guards.contains save = false ∧ s.world.checkOut p = (w, .ok c)
      ∧ (s.run command).1 = { s.inWorld w with guards := s.guards.insert save c } := by
  -- the size of the registry says which numbers are known
  have hsize : ∀ {w : World}, w.connections.size = s.world.connections.size →
      ¬ w.connections.Known c := by
    intro w hw
    rw [Registry.known_congr hw]
    exact hn
  have hdealing := s.dealing_run command
  generalize (s.run command).1 = s' at hdealing hk ⊢
  cases hdealing with
  | still h => exact absurd hk (hsize h.world.connections_size)
  | start config hworld =>
      rw [hworld] at hk
      exact absurd hk (hsize (World.size_connections_startPool _ _))
  | @refused pool save p w error hfree hp h =>
      have hbrings := (Custody.brings_checkOut hs.balanced hs.plugged p).known c
      rw [h] at hbrings
      exact absurd (hbrings hk) (not_or.mpr ⟨hn, nofun⟩)
  | @granted pool save p w d hfree hp h =>
      have hbrings := (Custody.brings_checkOut hs.balanced hs.plugged p).known c
      rw [h] at hbrings
      obtain rfl := Except.ok.inj ((hbrings hk).resolve_left hn)
      exact ⟨pool, save, p, w, rfl, hp, hfree, h, rfl⟩
  | shutDown hp => exact absurd hk (hsize (World.size_connections_shutDown _ _))
  | sweep hp => exact absurd hk (hsize (World.size_connections_sweep _ _))
  | checkIn hg => exact absurd hk (hsize (World.size_connections_checkIn _ _))
  | retire hg => exact absurd hk (hsize (World.size_connections_retire _ _))
  | dial => exact absurd hk hn
  | cut => exact absurd hk hn

/-! ## What holds of every session -/

/-- **All that happens to connections and pools is documented**, and each of them is what its pool
was configured for. -/
structure Documented (s : Session) : Prop where
  accounted : s.Accounted
  kept : s.custody.Kept
  told : s.custody.Told
  faithful : s.world.driver.Faithful
  listeners : ∀ p, s.world.pools.Known p →
    (s.world.pool p).config.Fits (s.world.pool p).listeners
  chains : ∀ c, s.world.connections.Known c →
    (s.world.pool (s.world.connection c).pool).config.Fits (s.world.connection c).chain
  handed : ∀ c, s.world.connections.Known c → 1 ≤ (s.world.connection c).metadata.checkouts

theorem Documented.moves (h : s.Documented) {l : List Signal}
    (hmoves : Moves s.custody l t.custody) (ht : t.Accounted)
    (hnew : ∀ c, t.world.connections.Known c → ¬ s.world.connections.Known c →
      1 ≤ (t.world.connection c).metadata.checkouts) : t.Documented := by
  have hstays := hmoves.continues
  refine ⟨ht, hmoves.kept h.kept, hmoves.told h.kept h.told, hmoves.faithful h.faithful,
    fun p hp => ?_, fun c hc => ?_, fun c hc => ?_⟩
  · by_cases hold : s.world.pools.Known p
    · have hcharter := (hstays.pools p hold).2
      change (t.world.pool p).charter = (s.world.pool p).charter at hcharter
      rw [Pool.config_of_charter hcharter, Pool.listeners_of_charter hcharter]
      exact h.listeners p hold
    · exact hstays.newPools p hp hold
  · by_cases hold : s.world.connections.Known c
    · obtain ⟨-, hpool, -, hchain, -⟩ := hstays.connections c hold
      change (t.world.connection c).pool = (s.world.connection c).pool at hpool
      change (t.world.connection c).chain = (s.world.connection c).chain at hchain
      have hcharter : (t.world.pool (s.world.connection c).pool).charter
          = (s.world.pool (s.world.connection c).pool).charter :=
        (hstays.pools _ (h.kept.pool_known c hold)).2
      rw [hpool, hchain, Pool.config_of_charter hcharter]
      exact h.chains c hold
    · exact (hstays.newConnections c hc hold).2.2
  · by_cases hold : s.world.connections.Known c
    · exact (h.handed c hold).trans (hstays.connections c hold).2.2.2.2
    · exact hnew c hc hold

/-- **One command leaves everything documented.** -/
theorem Documented.run (h : s.Documented) (command : Command) : (s.run command).1.Documented := by
  obtain ⟨l, hmoves⟩ := h.accounted.moves command
  refine h.moves hmoves (h.accounted.run command).accounted fun c hk hn => ?_
  obtain ⟨pool, save, p, w, -, -, -, hchecked, hrun⟩ := h.accounted.newConnection hk hn
  rw [hrun]
  exact (Custody.handed_checkOut h.accounted.balanced h.accounted.plugged hchecked).2

/-- Nothing that happens to stores needs documenting. -/
theorem Documented.still (h : s.Documented) {s' : Session} (hstill : Still s s') :
    s'.Documented := by
  have hmoves : Moves s.custody [] s'.custody := by
    rw [custody_of_guards hstill.guards hstill.raw]
    exact (Move.still hstill.world).moves
  exact h.moves hmoves (h.accounted.still hstill).accounted fun c hk hn =>
    absurd ((Registry.known_congr hstill.world.connections_size c).mp hk) hn

theorem documented_empty : empty.Documented where
  accounted := accounted_empty
  kept :=
    { plugged := accounted_empty.plugged
      pool_known := fun c hc => absurd hc (Registry.not_known_empty c)
      placed := fun c hc => absurd hc (Registry.not_known_empty c)
      owned := fun line hk => absurd hk (Registry.not_known_empty line)
      shut := fun p _ => congrArg Pool.idle
        (Registry.get_of_not_known (Registry.not_known_empty p)) }
  told :=
    { timely := .nil _ _
      concerned := fun _ hs => nomatch hs
      reached := fun _ hs => nomatch hs
      due := fun _ h => nomatch h
      pools := fun p hp => absurd hp (Registry.not_known_empty p)
      connections := fun c hc => absurd hc (Registry.not_known_empty c) }
  faithful :=
    { openings := rfl
      hangUps_nodup := List.nodup_nil
      mem_hangUps := fun line =>
        ⟨nofun, fun h => absurd h.1 (Registry.not_known_empty line)⟩ }
  listeners p hp := absurd hp (Registry.not_known_empty p)
  chains c hc := absurd hc (Registry.not_known_empty c)
  handed c hc := absurd hc (Registry.not_known_empty c)

/-- **What any client may come to**, by commands between which the entries of stores change their
order. -/
inductive Proceeds (s : Session) : Session → Prop
  | refl : Proceeds s s
  | run {t : Session} (h : Proceeds s t) (command : Command) : Proceeds s (t.run command).1
  | reorder {t : Session} (h : Proceeds s t) {c : ConnectionId}
      {entries : Table fun _ : CacheKey => Tracked}
      (hs : ((t.world.connection c).store?).isSome = true)
      (he : entries.bag = (t.world.store c).entries.bag) :
      Proceeds s (t.inWorld (t.world.setStore c { t.world.store c with entries }))

theorem Reaches.proceeds (h : Reaches s t) : Proceeds s t := by
  induction h with
  | refl => exact .refl
  | run _ _ ih => exact ih.run _
  | reorder _ hs he ih => exact ih.reorder hs he

/-- The order of the entries of a store is nobody's business. -/
theorem still_reorder (s : Session) (c : ConnectionId)
    (entries : Table fun _ : CacheKey => Tracked) :
    Still s (s.inWorld (s.world.setStore c { s.world.store c with entries })) :=
  still_inWorld (World.Deed.store s.world c { s.world.store c with entries }).deeds.still

theorem Proceeds.documented (hp : Proceeds s t) (h : s.Documented) : t.Documented := by
  induction hp with
  | refl => exact h
  | run _ command ih => exact ih.run command
  | reorder _ _ _ ih => exact ih.still (still_reorder _ _ _)

/-- **What any client does is a number of moves.** -/
theorem Proceeds.moves (hp : Proceeds s t) (h : s.Documented) :
    ∃ l, Moves s.custody l t.custody := by
  induction hp with
  | refl => exact ⟨[], .refl⟩
  | run hp command ih =>
      obtain ⟨l, hmoves⟩ := ih
      obtain ⟨l', hmoves'⟩ := (hp.documented h).accounted.moves command
      exact ⟨l ++ l', hmoves.trans hmoves'⟩
  | @reorder t _ c entries _ _ ih =>
      obtain ⟨l, hmoves⟩ := ih
      have hstill := still_reorder t c entries
      refine ⟨l, hmoves.silent ?_⟩
      rw [custody_of_guards hstill.guards hstill.raw]
      exact .still hstill.world

end Session

end ConnectionPool
