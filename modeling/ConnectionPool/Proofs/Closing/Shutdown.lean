import ConnectionPool.Proofs.Closing.Release
import ConnectionPool.Proofs.Custody.Lifecycle

/-!
# Shutdown is final and complete

A pool that is closed stays closed. It hands nothing out, nothing waits in it, and what is still
checked out is torn down as soon as its guard is given up; closing the pool again or sweeping it
does nothing (`Session.Shut`). When no guard of it is left, nothing is left of it: its connections
are gone and all lines that were ever opened for it are closed, its stores are drained and its
counter is back at zero, and every statement that came to one of its caches is closed or in the
hands of the client (`Session.Vacant`).

The counter is no longer the pool's when the pool is closed; the caches of connections that are
checked out still count there what is parked and given back.
-/

set_option autoImplicit false

namespace ConnectionPool

namespace Registry

/-- A change that changes nothing. -/
theorem modify_eq_self {α : Type} (r : Registry α) {n : Nat} {f : α → α}
    (h : ∀ a, r.get? n = some a → f a = a) : r.modify n f = r := by
  cases n with
  | zero => rfl
  | succ n =>
      obtain ⟨rows⟩ := r
      refine congrArg Registry.mk (List.ext_getElem? fun m => ?_)
      rw [List.getElem?_modify]
      cases hm : rows[m]? with
      | none => rfl
      | some a =>
          split
          · next hnm =>
              subst hnm
              exact congrArg some (h a hm)
          · rfl

end Registry

namespace World

variable {w : World} {c : ConnectionId} {p : PoolId}

theorem updatePool_eq_self {f : Pool → Pool} (h : f (w.pool p) = w.pool p) :
    w.updatePool p f = w := by
  have hpools : w.pools.modify p f = w.pools := by
    refine w.pools.modify_eq_self fun pool hp => ?_
    have hget : w.pool p = pool := by rw [World.pool, Registry.get, hp]; rfl
    rw [← hget, h]
  rw [updatePool, hpools]

/-- A sweep of a pool in which nothing waits does nothing. -/
theorem sweep_of_idle_nil (h : (w.pool p).idle = []) : w.sweep p = (w, 0) := by
  have hexpired : w.expired p = [] := by
    rw [expired, h]
    rfl
  rw [sweep, hexpired]
  refine Prod.ext (updatePool_eq_self ?_) rfl
  obtain ⟨pool, hpool⟩ : ∃ pool, w.pool p = pool := ⟨_, rfl⟩
  rw [hpool] at h ⊢
  cases pool
  cases h
  rfl

/-- What is returned to a closed pool is taken out of it. -/
theorem checkIn_of_closed (h : (w.pool (w.connection c).pool).closed = true) :
    w.checkIn c = w.retire c := by
  unfold checkIn
  simp only
  rw [h, Bool.true_or, if_pos rfl]

/-- **A statement of the driver came to a cache of a pool**, in the chain of one of its
connections, as the answer to a call that prepares. -/
def WrappedFor (w : World) (p : PoolId) (id : StatementId) : Prop :=
  ∃ c position k call handle, (w.connection c).pool = p
    ∧ (w.connection c).cacheAt? position = some k ∧ call.method.prepares = true
    ∧ w.Answered c (position + 1) call handle ∧ handle.target? = some id

end World

namespace Session

variable {s t : Session} {S : Scene} {p : PoolId} {c : ConnectionId} {n : CounterId}
  {guard : Name} {command : Command}

/-! ## Giving a guard up -/

/-- **A guard is given up**: its connection is returned, or taken out of the pool for good. -/
inductive GivesUp (guard : Name) : Command → Prop
  | checkIn : GivesUp guard (.connection (.checkIn guard))
  | retire : GivesUp guard (.connection (.retire guard))

/-- **A connection ends**: it says farewell and is gone; what was parked on it is closed before its
line is, its store is empty and closed, and the counter drops by what was parked. -/
structure Ends (n : CounterId) (c : ConnectionId) (s s' : Session) : Prop where
  signals : s.world.signalsSince s'.world = (s.world.connection c).farewell c false
  gone : s'.world.Gone c
  released : World.Released c s.world s'.world
  counted : (s'.world.counter n).count + (s.world.store c).size = (s.world.counter n).count

/-- A guard of a closed pool that is given up takes its connection out of the pool. -/
theorem run_givesUp (hclosed : (s.world.pool (s.world.connection c).pool).closed = true)
    (hg : s.guards.get? guard = some c) (hcommand : GivesUp guard command) :
    (s.run command).1
        = { s.inWorld (s.world.retire c) with guards := s.guards.erase guard }
      ∧ s.disconnects command
        = [⟨c, false, s.world.freeSlot (s.world.connection c).pool⟩] := by
  cases hcommand with
  | checkIn =>
      constructor
      · rw [run_checkIn hg, World.checkIn_of_closed hclosed]
      · rw [disconnects_checkIn hg, World.checkInDisconnects, hclosed, Bool.true_or, if_pos rfl]
        rfl
  | retire =>
      constructor
      · rw [run_retire hg]
      · rw [disconnects_retire hg]
        rfl

/-- **What a guard of a closed pool holds ends as soon as the guard is given up.** -/
theorem InOrder.ends (h : s.InOrder S) (hn : Counting p n S)
    (hclosed : (s.world.pool p).closed = true) (hg : s.guards.get? guard = some c)
    (hp : (s.world.connection c).pool = p) (hcommand : GivesUp guard command) :
    s.Ends n c (s.run command).1 := by
  subst hp
  -- giving the guard up is the one disconnect of the command
  obtain ⟨hrun, hdisconnects⟩ := run_givesUp hclosed hg hcommand
  have hlive := h.accounted.live_guard hg
  have hretired : Custody.Moves
      (Custody.holding s.world
        (c ::ₘ ({ s with guards := s.guards.erase guard } : Session).out) s.HoldsLine)
      ((s.world.connection c).farewell c false)
      (Custody.holding (s.world.retire c)
        ({ s with guards := s.guards.erase guard } : Session).out s.HoldsLine) :=
    Custody.moves_retire hlive
  have hmem : ⟨c, false, s.world.freeSlot (s.world.connection c).pool⟩ ∈ s.disconnects command := by
    rw [hdisconnects]
    exact List.mem_singleton.mpr rfl
  obtain ⟨hreleased, hcounted, -⟩ := h.disconnect hn hmem rfl
  -- the chain has emptied the store, so nothing is left in it to be closed
  have hforgotten := Scene.retire_eq (h.tidy_of_guard hg).1
  rw [h.depicts.world] at hforgotten
  have hworld : (s.run command).1.world
      = World.teardown false (s.world.freeSlot (s.world.connection c).pool) c := by
    rw [hrun]
    exact hforgotten
  rw [hforgotten, ← hworld] at hretired
  have hfreed : (s.world.freeSlot (s.world.connection c).pool).Live c := hlive.updatePool _ _
  have htorn := World.tornDown_teardown hfreed false
  refine ⟨hretired.emits.since, ?_, ?_, ?_⟩
  · rw [hworld]
    exact htorn.gone
  · rw [hworld]
    exact ⟨hreleased.log, hreleased.closed, hreleased.empty, hreleased.others⟩
  · rw [hworld]
    exact hcounted

/-! ## A closed pool -/

/-- **A pool is shut**: whoever asks for a connection is refused and changes nothing, nothing waits
in it, and its numbers are those of its guards; what a guard holds ends when the guard is given up;
and closing the pool or sweeping it does nothing. -/
structure Shut (s : Session) (p : PoolId) (n : CounterId) : Prop where
  refuses : ∀ pool save, s.pools.get? pool = some p → s.guards.contains save = false →
    s.run (.pool (.checkOut pool save)) = (s, .poolError .poolClosed)
  idle : (s.world.pool p).idle = []
  available : (s.world.pool p).status.available = 0
  inUse : (s.world.pool p).status.inUse = s.world.taken s.out p
  total : (s.world.pool p).status.total = s.world.taken s.out p
  ends : ∀ guard c, s.guards.get? guard = some c → (s.world.connection c).pool = p →
    ∀ command, GivesUp guard command → s.Ends n c (s.run command).1
  closesAgain : ∀ pool, s.pools.get? pool = some p → s.run (.pool (.shutDown pool)) = (s, .done)
  sweeps : ∀ pool, s.pools.get? pool = some p → s.run (.pool (.sweep pool)) = (s, .count 0)

theorem InOrder.shut (h : s.InOrder S) (hs : s.Documented) (hn : Counting p n S)
    (hclosed : (s.world.pool p).closed = true) : s.Shut p n := by
  have hidle : (s.world.pool p).idle = [] := hs.kept.shut p hclosed
  have hsums := h.accounted.balanced.sums p
  have havailable : (s.world.pool p).status.available = 0 := congrArg List.length hidle
  refine
    { refuses := fun pool save hp hfree => ?_
      idle := hidle
      available := havailable
      inUse := hsums.inUse
      total := by rw [hsums.total, hsums.inUse, havailable, Nat.add_zero]
      ends := fun guard c hg hp command hcommand => h.ends hn hclosed hg hp hcommand
      closesAgain := fun pool hp => ?_
      sweeps := fun pool hp => ?_ }
  · rw [run_checkOut_error hfree hp (World.checkOut_of_closed hclosed)]
    rfl
  · rw [run_shutDown hp, World.shutDown_of_closed hclosed]
    rfl
  · rw [run_sweep hp, World.sweep_of_idle_nil hidle]
    rfl

/-- A pool that is closed stays closed. -/
theorem Documented.closed_proceeds (h : s.Documented) (hp : s.world.pools.Known p)
    (hclosed : (s.world.pool p).closed = true) (ht : Proceeds s t) :
    (t.world.pool p).closed = true := by
  induction ht with
  | refl => exact hclosed
  | run ht command ih =>
      obtain ⟨l, hmoves⟩ := ht.moves h
      exact ((ht.documented h).closed_run (hmoves.continues.pools p hp).1 command).1 ih
  | reorder _ _ _ ih => exact ih

/-! ## When no guard is left -/

/-- **A pool is vacant**: nothing is left of its connections, of the lines that were ever opened for
it and of what was parked there; its counter is at zero; and every statement that came to one of its
caches is closed, or the client holds it. -/
structure Vacant (s : Session) (p : PoolId) (n : CounterId) : Prop where
  total : (s.world.pool p).status.total = 0
  gone : ∀ c, s.world.connections.Known c → (s.world.connection c).pool = p → s.world.Gone c
  lines : ∀ lines, Dials p empty lines s → ∀ line ∈ lines,
    (s.world.driver.connection line).closed = true
  stores : ∀ c, s.world.connections.Known c → (s.world.connection c).pool = p →
    (s.world.store c).closed = true ∧ (s.world.store c).entries = Table.empty
  counter : (s.world.counter n).count = 0
  statements : ∀ id, s.world.WrappedFor p id →
    (s.world.driver.statement id).closed = true ∨ ∃ name, s.Holds name id

/-- What nobody holds and what does not wait is gone. -/
theorem Documented.gone (h : s.Documented) (hidle : (s.world.pool p).idle = [])
    (hguards : ∀ guard c, s.guards.get? guard = some c → (s.world.connection c).pool ≠ p)
    (hc : s.world.connections.Known c) (hp : (s.world.connection c).pool = p) : s.world.Gone c := by
  rcases h.kept.placed c hc with hout | hwaits | hgone
  · obtain ⟨guard, hg⟩ := exists_guard hout
    exact absurd hp (hguards guard c hg)
  · change c ∈ (s.world.pool (s.world.connection c).pool).idle at hwaits
    rw [hp, hidle] at hwaits
    exact absurd hwaits List.not_mem_nil
  · exact hgone

/-- **The store of what is gone is drained**: the connection had a cache in its chain. -/
theorem InOrder.drained_of_gone (h : s.InOrder S) (hn : Counting p n S)
    (hc : s.world.connections.Known c) (hp : (s.world.connection c).pool = p)
    (hgone : s.world.Gone c) :
    (s.world.store c).closed = true ∧ (s.world.store c).entries = Table.empty := by
  have hworld := h.depicts.world
  have hcaches : (s.world.connection c).caches ≠ [] := by
    rw [← hworld] at hc hp ⊢
    refine h.sound.wired.chained c hc ?_
    rw [hp]
    exact hn.caching
  have hdrained := h.scene.stocked.drained c
  rw [hworld] at hdrained
  have hstore := (hdrained hgone.closed).resolve_left hcaches
  refine ⟨hstore, Table.eq_empty_of_bag ?_⟩
  rw [← hworld] at hstore ⊢
  exact h.sound.wired.drained c hstore

/-- Nothing is counted of a pool on which nothing is parked. -/
theorem InOrder.count_eq_zero (h : s.InOrder S) (hn : Counting p n S)
    (hempty : ∀ c, s.world.connections.Known c → (s.world.connection c).pool = p →
      (s.world.store c).entries = Table.empty) : (s.world.counter n).count = 0 := by
  have hexact := hn.admits.exact
  rw [Scene.Exact, h.depicts.owed, Multiset.count_zero, Nat.add_zero, h.depicts.world,
    World.parkedIn_eq_sum] at hexact
  rw [hexact]
  refine Finset.sum_eq_zero fun c hc => ?_
  obtain ⟨hknown, hp⟩ := Finset.mem_filter.mp hc
  rw [Store.size, hempty c ((s.world.mem_everyConnection c).mp hknown) hp]
  rfl

/-- **What a cache wrapped is held or closed**, if nothing is parked in the pool: it could be parked
only on the connection on which it was obtained. -/
theorem InOrder.held_or_closed (h : s.InOrder S) {id : StatementId}
    (hw : s.world.WrappedFor p id)
    (hempty : ∀ c, s.world.connections.Known c → (s.world.connection c).pool = p →
      (s.world.store c).entries = Table.empty) :
    (s.world.driver.statement id).closed = true ∨ ∃ name, s.Holds name id := by
  obtain ⟨c, position, k, call, handle, hp, hk, hprepares, hanswered, htarget⟩ := hw
  rcases h.toKeeps.placed ⟨c, position, k, call, handle, hk, hprepares, hanswered, htarget⟩ with
    ⟨-, -, hheld, -⟩ | ⟨-, -, -, hparked⟩ | ⟨hclosed, -⟩
  · exact Or.inr hheld.exists
  · obtain ⟨⟨d, key⟩, ⟨tracked, he, hid⟩, -⟩ := hparked
    have hobtained : s.world.Obtained c id :=
      ⟨position + 1, call, handle, hprepares, hanswered, htarget⟩
    rw [← h.depicts.world] at he hobtained
    have hshelved := h.scene.sourced.entries he
    have hd := hshelved.rooted.obtained h.sound.wired hshelved.cache hid
    obtain rfl := h.scene.sourced.obtained hobtained hd
    rw [h.depicts.world, hempty c (World.known_of_cacheAt? hk) hp] at he
    cases he
  · exact Or.inl hclosed

theorem InOrder.vacant (h : s.InOrder S) (hs : s.Documented) (hn : Counting p n S)
    (hclosed : (s.world.pool p).closed = true)
    (hguards : ∀ guard c, s.guards.get? guard = some c → (s.world.connection c).pool ≠ p) :
    s.Vacant p n := by
  have hshut := h.shut hs hn hclosed
  have hgone : ∀ c, s.world.connections.Known c → (s.world.connection c).pool = p →
      s.world.Gone c := fun c hc hp => hs.gone hshut.idle hguards hc hp
  have hstores : ∀ c, s.world.connections.Known c → (s.world.connection c).pool = p →
      (s.world.store c).closed = true ∧ (s.world.store c).entries = Table.empty :=
    fun c hc hp => h.drained_of_gone hn hc hp (hgone c hc hp)
  have hempty : ∀ c, s.world.connections.Known c → (s.world.connection c).pool = p →
      (s.world.store c).entries = Table.empty := fun c hc hp => (hstores c hc hp).2
  refine
    { total := ?_
      gone := hgone
      lines := fun lines hlines line hl => ?_
      stores := hstores
      counter := h.count_eq_zero hn hempty
      statements := fun id hw => h.held_or_closed hw hempty }
  · rw [hshut.total, World.taken, Multiset.countP_eq_zero]
    intro c hc
    obtain ⟨guard, hg⟩ := exists_guard hc
    exact hguards guard c hg
  · -- a line that is open belongs to a connection of the pool, and these are gone
    by_contra hopen
    obtain ⟨c, hc, hp, hline⟩ :=
      hlines.linesOf.owner line hl (Bool.eq_false_of_not_eq_true hopen)
    rw [← hline] at hopen
    exact hopen (hgone c hc hp).line

/-! ## The theorem -/

/-- **Shutdown is final and complete.** A pool was started with at least one cache, and is closed
now. Whatever a client without caches of its own has done before and does afterwards, whatever
faults are switched and in whatever order stores are visited, the pool stays closed; it is shut; and
when the client has no guard of it any more, it is vacant. -/
theorem shutdown_final {save : Name} {request : PoolRequest} {config : PoolConfig}
    (hs : Reaches empty s) (hfree : s.pools.get? save = none) (hread : request.read = .ok config)
    (hcaching : config.Caching)
    (hp : (s.run (.pool (.start save request))).1.pools.get? save = some p) :
    ∃ n, ((s.run (.pool (.start save request))).1.world.pool p).counter? = some n
      ∧ ∀ t, Reaches (s.run (.pool (.start save request))).1 t →
        (t.world.pool p).closed = true →
        (∀ u, Reaches t u → (u.world.pool p).closed = true)
        ∧ t.Shut p n
        ∧ ((∀ guard c, t.guards.get? guard = some c → (t.world.connection c).pool ≠ p) →
          t.Vacant p n) := by
  obtain ⟨S, hturns, h⟩ := hs.inOrder inOrder_empty
  obtain ⟨S₁, n, h₁, -, hn, hcounting⟩ := h.start hturns hfree hread hcaching hp
  refine ⟨n, hn, fun t ht hclosed => ?_⟩
  obtain ⟨T, hturns', hT⟩ := ht.inOrder h₁
  have hdocumented : t.Documented := ht.proceeds.documented
    ((hs.proceeds.documented documented_empty).run (.pool (.start save request)))
  have hcounting' := hcounting.turns h₁.sound.wired hturns'
  have hknown := hcounting'.known
  rw [hT.depicts.world] at hknown
  exact ⟨fun u hu => hdocumented.closed_proceeds hknown hclosed hu.proceeds,
    hT.shut hdocumented hcounting' hclosed, fun hguards =>
      hT.vacant hdocumented hcounting' hclosed hguards⟩

/-- A pool with two caches is closed while a connection is checked out, and a handle of the
connection is closed after that. -/
def lingering : List Command :=
  [.pool (.checkOut "p" "g"), .connection (.prepare "g" selection (some "a")),
    .connection (.prepare "g" ⟨.prepareStatement, [.text "SELECT 2"]⟩ (some "b")),
    .pool (.shutDown "p"), .statement (.close "a")]

/-- The statement is parked in the closed pool and counted. When the guard is given up, the
connection ends; the pool is vacant then, though the client holds the other statement open. -/
theorem shutdown_final_lingering :
    (((empty.run (.pool (.start "p" stacked))).1.runAll lingering).world.Parks 1
        ⟨.prepared, selection.args⟩ 1)
      ∧ ((empty.run (.pool (.start "p" stacked))).1.runAll lingering).Shut 1 1
      ∧ ((empty.run (.pool (.start "p" stacked))).1.runAll lingering).Ends 1 1
        (((empty.run (.pool (.start "p" stacked))).1.runAll lingering).run
          (.connection (.checkIn "g"))).1
      ∧ (((empty.run (.pool (.start "p" stacked))).1.runAll lingering).run
          (.connection (.checkIn "g"))).1.Vacant 1 1
      ∧ ((((empty.run (.pool (.start "p" stacked))).1.runAll lingering).run
          (.connection (.checkIn "g"))).1.world.driver.statement 2).closed = false := by
  obtain ⟨config, hread, hcaching⟩ : ∃ config, stacked.read = .ok config ∧ config.Caching :=
    ⟨_, rfl, _, List.mem_cons_self, false, rfl⟩
  have hfree : empty.pools.get? "p" = none := by rfl
  have hp : (empty.run (.pool (.start "p" stacked))).1.pools.get? "p" = some 1 := by rfl
  obtain ⟨n, hn, hfinal⟩ := shutdown_final .refl hfree hread hcaching hp
  obtain rfl : 1 = n := Option.some.inj hn
  have hclient : ∀ c : CacheCommand, .cache c ∉ lingering := by simp [lingering]
  have hreached := Reaches.runAll hclient (.refl (s := (empty.run (.pool (.start "p" stacked))).1))
  have hreturn : ∀ c : CacheCommand, Command.connection (.checkIn "g") ≠ .cache c := fun _ => nofun
  obtain ⟨-, hshut, -⟩ := hfinal _ hreached (by rfl)
  obtain ⟨-, -, hvacant⟩ := hfinal _ (hreached.run hreturn) (by rfl)
  exact ⟨⟨⟨some ⟨.prepared, selection.args⟩, 3, _⟩, by rfl, by rfl⟩, hshut,
    hshut.ends "g" 1 (by rfl) (by rfl) _ .checkIn, hvacant (fun _ _ hg => nomatch hg), by rfl⟩

end Session

end ConnectionPool
