import ConnectionPool.Proofs.Closing.StillOpen

/-!
# Teardown releases everything before the connection goes

Whenever a command disconnects a connection of a pool with caches, every statement that was parked
on the connection is closed in the log before the connection is, the store is empty and closed, the
admission counter of the pool has dropped by the number of statements that were parked, and the
stores of all other connections are as they were. In every later session the store is still empty
and closed, and a handle of the connection that is closed or let go of closes the driver's
statement instead of parking it (`teardown_releases`). No other connection goes in the course of
the command.

This holds for any number of caches in the chain, for every order in which the store is visited,
and whatever faults are switched on.
-/

set_option autoImplicit false

namespace ConnectionPool

namespace World

variable {w w' : World} {c : ConnectionId} {p : PoolId}

/-- **What was parked on the connection that was released** is parked in its pool no more. -/
theorem Released.parkedIn (h : Released c w w') (hs : Spares (· = c) w w')
    (hc : w.connections.Known c) (hp : (w.connection c).pool = p) :
    w'.parkedIn p + (w.store c).size = w.parkedIn p := by
  have hsame : w'.parkedIn p = (w.setStore c (w'.store c)).parkedIn p := by
    apply parkedIn_congr
    · exact hs.size.trans (Registry.size_modify _ _ _).symm
    · intro d _
      rw [hs.pool, pool_setStore]
    · intro d _
      by_cases hd : c = d
      · subst hd
        rw [store_setStore_self _ hc]
      · rw [store_setStore_of_ne _ hd, h.others d hd]
  have hempty : (w'.store c).size = 0 := by
    rw [Store.size, h.empty, Table.size_empty]
  have hset := parkedIn_setStore hc (w'.store c) p
  rw [if_pos hp, if_pos hp, hempty] at hset
  rw [hsame]
  omega

end World

namespace Scene

variable {S : Scene} {p : PoolId} {n : CounterId}

/-- **The counter of a pool drops** by the number of statements that were parked on a connection
that is torn down. -/
theorem InOrder.count_released (hS : S.InOrder) (hn : Admits (fun _ => True) p n S)
    (ho : S.owed = 0) {c : ConnectionId} (hc : Tidy c S) (hp : (S.world.connection c).pool = p)
    {finalizing : Bool} (hr : World.Released c S.world (World.teardown finalizing S.world c)) :
    ((World.teardown finalizing S.world c).counter n).count + (S.world.store c).size
      = (S.world.counter n).count := by
  have hspares := World.spares_teardown (Wired.plugged hS.sound.wired) hc.known finalizing
  have hparked := hr.parkedIn hspares hc.known hp
  have hsteps := steps_teardown hc finalizing
  have hafter := (hsteps.turns.own.admits hS.sound.wired hn).exact
  have hbefore := hn.exact
  -- nothing is owed on either side
  unfold Exact at hafter hbefore
  have howed : (S.inWorld (World.teardown finalizing S.world c)).owed = 0 := ho
  rw [howed, Multiset.count_zero, Nat.add_zero] at hafter
  rw [ho, Multiset.count_zero, Nat.add_zero] at hbefore
  calc ((World.teardown finalizing S.world c).counter n).count + (S.world.store c).size
      = (World.teardown finalizing S.world c).parkedIn p + (S.world.store c).size :=
        congrArg (· + (S.world.store c).size) hafter
    _ = S.world.parkedIn p := hparked
    _ = (S.world.counter n).count := hbefore.symm

end Scene

namespace Session

open Scene (Turns)

variable {s t : Session} {S : Scene} {p : PoolId} {c : ConnectionId} {name : Name} {held : Held}
  {id : StatementId}

/-! ## Handles of a connection that is gone -/

/-- **A client holds an open handle of a connection**: what the handle reaches was obtained
there. -/
structure HoldsOpen (s : Session) (c : ConnectionId) (name : Name) (held : Held)
    (id : StatementId) : Prop where
  found : s.statements.get? name = some held
  target : held.statement.target? = some id
  obtained : s.world.Obtained c id
  unclosed : (s.world.driver.statement id).closed = false

/-- **A statement is disposed of**: the driver closes it, and nothing is parked or counted. -/
structure Disposes (s s' : Session) (id : StatementId) : Prop where
  closed : (s'.world.driver.statement id).closed = true
  logged : ∃ events : DriverLog, s'.world.driver.log = s.world.driver.log ++ events
    ∧ .statementClosed id ∈ events
  stores : ∀ d, s'.world.store d = s.world.store d
  counters : ∀ n, s'.world.counter n = s.world.counter n

/-- **A connection is vacated**: its store is empty and closed, and a handle of it that is closed
or let go of is disposed of. A bare driver statement, which no cache wrapped, has nothing that runs
when it is let go of. -/
structure Vacated (s : Session) (c : ConnectionId) : Prop where
  closed : (s.world.store c).closed = true
  empty : (s.world.store c).entries = Table.empty
  close : ∀ name held id, s.HoldsOpen c name held id →
    Disposes s (s.run (.statement (.close name))).1 id
  drop : ∀ name held id, s.HoldsOpen c name held id → held.statement.bare? = none →
    Disposes s (s.run (.statement (.drop name))).1 id

/-- What a client holds is rooted. -/
theorem InOrder.rooted (h : s.InOrder S) (hheld : s.statements.get? name = some held) :
    S.world.Rooted held.statement := by
  cases hb : held.statement.bare? with
  | some id =>
      rw [held.statement.eq_physical_of_bare? hb]
      trivial
  | none =>
      apply h.scene.sourced.hands
      rw [h.depicts.hands_eq hheld hb]
      exact Multiset.mem_cons_self _ _

/-- A handle of a connection whose store is closed is disposed of when it is closed. -/
theorem InOrder.disposes (h : s.InOrder S) (hclosed : (s.world.store c).closed = true)
    (ho : s.HoldsOpen c name held id) {s' : Session}
    (hs' : s'.world = (World.close held.statement s.world).1) : Disposes s s' id := by
  have hobtained := ho.obtained
  rw [← h.depicts.world] at hobtained
  have hsealed : s.world.Sealed held.statement := by
    apply h.scene.sourced.sealed h.sound.wired hobtained (h.rooted ho.found) ho.target
    · rw [h.depicts.world]
    · exact hclosed
  obtain ⟨⟨driver, hclose, hwinds⟩, hdone⟩ := World.close_sealed hsealed
  obtain ⟨events, hlog, -, hclosings⟩ := hwinds.log
  rw [hclose] at hs' hdone
  constructor
  · rw [hs']
    exact hdone id ho.target
  · rw [hs']
    exact ⟨events, hlog, hclosings id ho.unclosed (hdone id ho.target)⟩
  · intro d
    rw [hs']
    rfl
  · intro n
    rw [hs']
    rfl

/-- **Where the store of a connection is closed, the connection is vacated.** -/
theorem InOrder.vacated (h : s.InOrder S) (hclosed : (s.world.store c).closed = true) :
    s.Vacated c where
  closed := hclosed
  empty := by
    apply Table.eq_empty_of_bag
    rw [← h.depicts.world] at hclosed ⊢
    exact h.sound.wired.drained c hclosed
  close name held id ho := by
    apply h.disposes hclosed ho
    simp only [Session.run, runStatement, withStatement, ho.found]
    rfl
  drop name held id ho hb := by
    apply h.disposes hclosed ho
    have hdrop : s.world.dropHandle held.statement
        = (World.close held.statement s.world).1 := by
      have htarget := ho.target
      obtain ⟨statement, origin⟩ := held
      cases statement with
      | physical other => cases hb
      | spent => cases htarget
      | facade key k inner => rfl
    simp only [Session.run, runStatement, withStatement, ho.found, hdrop]
    rfl

/-! ## The theorem -/

/-- A command about caches of a client's own disconnects nothing. -/
theorem ne_cache_of_disconnects {command : Command} {d : Disconnect}
    (hd : d ∈ s.disconnects command) (k : CacheCommand) : command ≠ .cache k := by
  rintro rfl
  exact absurd hd List.not_mem_nil

/-- **What a disconnect comes to**, in a session of a pool with a cache. -/
theorem InOrder.disconnect (h : s.InOrder S) {n : CounterId} (hn : Counting p n S)
    {command : Command} {d : Disconnect} (hd : d ∈ s.disconnects command)
    (hp : (d.before.connection d.connection).pool = p) :
    World.Released d.connection d.before d.after
      ∧ (d.after.counter n).count + (d.before.store d.connection).size
        = (d.before.counter n).count
      ∧ ∀ t, Reaches (s.run command).1 t → t.Vacated d.connection := by
  have hS := h.sound.wired
  obtain ⟨hreached, htidy, hlive, hlater⟩ := h.during command d hd
  have hbefore := hreached.inOrder h.scene
  have hcounting := hn.turns hS hreached
  have hcaches : (d.before.connection d.connection).caches ≠ [] := by
    apply (Scene.Turns.later_and_wired hreached hS).2.chained d.connection htidy.known
    show (d.before.pool (d.before.connection d.connection).pool).config.Caching
    rw [hp]
    exact hcounting.caching
  have hreleased := hbefore.released htidy hlive hcaches d.finalizing
  refine ⟨hreleased, ?_, fun t ht => ?_⟩
  · exact hbefore.count_released hcounting.admits h.depicts.owed htidy hp hreleased
  · -- from the end of the teardown to whatever is reached later
    obtain ⟨S₁, -, h₁⟩ := h.run (ne_cache_of_disconnects hd)
    obtain ⟨T, hturns, hT⟩ := ht.inOrder h₁
    have hafter := (Scene.steps_teardown htidy d.finalizing).later_and_wired hbefore.sound.wired
    have hend := (Scene.Turns.later_and_wired hlater hafter.2).1
    have hrest := (Scene.Turns.later_and_wired hturns h₁.sound.wired).1
    rw [h₁.depicts.world, hT.depicts.world] at hrest
    exact hT.vacated ((hend.trans hrest).drained d.connection hreleased.closed)

/-- **Teardown releases everything before the connection goes.** A pool was started with at least
one cache. Whatever a client without caches of its own does then, whatever faults are switched and
in whatever order stores are visited: a command leaves every connection open that it does not
disconnect; and when it disconnects a connection of the pool, the connection is released, the
counter of the pool drops by what was parked on it, and in every session that is reached from there
the connection is vacated. -/
theorem teardown_releases {save : Name} {request : PoolRequest} {config : PoolConfig}
    (hs : Reaches empty s) (hfree : s.pools.get? save = none) (hread : request.read = .ok config)
    (hcaching : config.Caching)
    (hp : (s.run (.pool (.start save request))).1.pools.get? save = some p) :
    ∃ n, ((s.run (.pool (.start save request))).1.world.pool p).counter? = some n
      ∧ ∀ t, Reaches (s.run (.pool (.start save request))).1 t → ∀ command,
        World.OpenBut (t.disconnects command) t.world (t.run command).1.world
        ∧ ∀ d ∈ t.disconnects command, (d.before.connection d.connection).pool = p →
          World.Released d.connection d.before d.after
          ∧ (d.after.counter n).count + (d.before.store d.connection).size
            = (d.before.counter n).count
          ∧ ∀ u, Reaches (t.run command).1 u → u.Vacated d.connection := by
  obtain ⟨S, hturns, h⟩ := hs.inOrder inOrder_empty
  obtain ⟨S₁, n, h₁, -, hn, hcounting⟩ := h.start hturns hfree hread hcaching hp
  refine ⟨n, hn, fun t ht command => ?_⟩
  obtain ⟨T, hturns', hT⟩ := ht.inOrder h₁
  exact ⟨hT.accounted.openBut command, fun d hd hpool =>
    hT.disconnect (hcounting.turns h₁.sound.wired hturns') hd hpool⟩

/-- A pool with two caches, one behind the other. -/
def stacked : PoolRequest :=
  { interceptors := [{ name := "outer", role := .cache false },
      { name := "inner", role := .cache false }] }

/-- Two statements are prepared, and the handle of the first is closed; from then on the driver
fails to close it. -/
def crowding : List Command :=
  [.pool (.checkOut "p" "g"), .connection (.prepare "g" selection (some "a")),
    .connection (.prepare "g" ⟨.prepareStatement, [.text "SELECT 2"]⟩ (some "b")),
    .statement (.close "a"), .switch (.statementClosing "SELECT 1")]

/-- When the connection is taken out of the pool, the statement that is parked there is released
though its closing fails, and the handle of the other one is disposed of when it is closed. -/
theorem teardown_releases_stacked :
    ∃ d ∈ ((empty.run (.pool (.start "p" stacked))).1.runAll crowding).disconnects
        (.connection (.retire "g")),
      d.before.Parks 1 ⟨.prepared, selection.args⟩ 1 ∧ World.Released 1 d.before d.after
      ∧ (d.after.counter 1).count + 1 = (d.before.counter 1).count
      ∧ Disposes
        (((empty.run (.pool (.start "p" stacked))).1.runAll crowding).run
          (.connection (.retire "g"))).1
        ((((empty.run (.pool (.start "p" stacked))).1.runAll crowding).run
          (.connection (.retire "g"))).1.run (.statement (.close "b"))).1 2 := by
  obtain ⟨config, hread, hcaching⟩ : ∃ config, stacked.read = .ok config ∧ config.Caching :=
    ⟨_, rfl, _, List.mem_cons_self, false, rfl⟩
  have hfree : empty.pools.get? "p" = none := by rfl
  have hp : (empty.run (.pool (.start "p" stacked))).1.pools.get? "p" = some 1 := by rfl
  obtain ⟨n, hn, hteardown⟩ := teardown_releases .refl hfree hread hcaching hp
  obtain rfl : 1 = n := Option.some.inj hn
  have hclient : ∀ c : CacheCommand, .cache c ∉ crowding := by simp [crowding]
  obtain ⟨-, hdisconnect⟩ := hteardown _ (Reaches.runAll hclient .refl)
    (.connection (.retire "g"))
  obtain ⟨hreleased, hcount, hvacated⟩ := hdisconnect _ List.mem_cons_self (by rfl)
  have hholds : (((empty.run (.pool (.start "p" stacked))).1.runAll crowding).run
      (.connection (.retire "g"))).1.HoldsOpen 1 "b"
        ⟨.facade (some ⟨.prepared, [.text "SELECT 2"]⟩) 3
          (.facade (some ⟨.prepared, [.text "SELECT 2"]⟩) 4 (.physical 2)), .call 1⟩ 2 :=
    ⟨by rfl, by rfl, ⟨2, ⟨.prepareStatement, [.text "SELECT 2"]⟩, .physical 2, by rfl,
      Or.inr ⟨by rfl, 2, by rfl, by rfl⟩, by rfl⟩, by rfl⟩
  exact ⟨_, List.mem_cons_self, ⟨⟨some ⟨.prepared, selection.args⟩, 3, _⟩, by rfl, by rfl⟩,
    hreleased, hcount, (hvacated _ .refl).close "b" _ 2 hholds⟩

end Session

end ConnectionPool
