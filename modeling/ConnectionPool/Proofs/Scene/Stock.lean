import ConnectionPool.Proofs.Scene.Aside
import ConnectionPool.Proofs.Scene.Sources

/-!
# What is in the stores

A statement that is parked looks like one just prepared, and it is parked on a connection that
is open: a connection of a pool is closed just when its driver's connection is, and not before
the store is drained. `Scene.Stocked` says this, `Scene.Turn.stocked` that every turn of a client
without caches of its own keeps it.
-/

set_option autoImplicit false

namespace ConnectionPool

theorem World.mem_parkedHandles {w : World} {c : ConnectionId} {key : CacheKey} {tracked : Tracked}
    (h : (w.store c).entries.get? key = some tracked) : tracked.facade ∈ w.parkedHandles := by
  have hc : w.connections.Known c := by
    by_contra hc
    rw [w.store_of_not_known hc] at h
    exact nomatch h
  rw [parkedHandles, total, Multiset.mem_sum]
  refine ⟨c, (w.mem_everyConnection c).mpr hc, Multiset.mem_map.mpr ⟨⟨key, tracked⟩, ?_, rfl⟩⟩
  exact (Table.mem_bag _ _ _).mpr h

namespace Scene

variable {S S' : Scene}

/-- **The stores are in order.** -/
structure Stocked (S : Scene) : Prop where
  rested : ∀ {c key tracked}, (S.world.store c).entries.get? key = some tracked →
    ∃ id, tracked.delegate.target? = some id ∧ (S.world.driver.statement id).Rested
  lines : ∀ c, S.world.connections.Known c →
    (S.world.driver.connection (S.world.connection c).physical).closed
      = (S.world.connection c).closed
  drained : ∀ c, (S.world.connection c).closed = true →
    (S.world.connection c).caches = [] ∨ (S.world.store c).closed = true

/-- A parked statement is neither out nor bare in the hands of a client. -/
theorem Owned.apart_of_parked (ho : S.Owned) {parked : Statement}
    (hp : parked ∈ S.world.parkedHandles) {id : StatementId} (ht : parked.target? = some id) :
    (∀ handle ∈ S.hands, handle.target? ≠ some id) ∧ id ∉ S.loose := by
  have hparked : id ∈ S.world.parkedHandles.filterMap Statement.target? :=
    (Multiset.mem_filterMap _ _).mpr ⟨parked, hp, ht⟩
  have hmem : id ∈ S.targets := mem_targets.mpr (Or.inr ⟨parked, hp, ht⟩)
  obtain ⟨-, hcount, hloose⟩ := (ho.each id).of_mem hmem
  refine ⟨fun handle hm hh => ?_, Multiset.count_eq_zero.mp hloose⟩
  have hout : id ∈ S.hands.filterMap Statement.target? :=
    (Multiset.mem_filterMap _ _).mpr ⟨_, hm, hh⟩
  rw [targets, handles, Multiset.filterMap_add, Multiset.count_add] at hcount
  have h₁ := Multiset.count_pos.mpr hparked
  have h₂ := Multiset.count_pos.mpr hout
  omega

/-! ## Connections and lines -/

/-- A connection and its line stay as they are, or both are closed once the store is drained. -/
theorem Step.line (h : Step S S') (hS : S.Wired) {c : ConnectionId}
    (hc : S.world.connections.Known c) :
    ((S'.world.connection c).closed = (S.world.connection c).closed
      ∧ (S'.world.driver.connection (S.world.connection c).physical).closed
        = (S.world.driver.connection (S.world.connection c).physical).closed)
    ∨ ((S'.world.connection c).closed = true
      ∧ (S'.world.driver.connection (S.world.connection c).physical).closed = true
      ∧ ((S.world.connection c).caches = [] ∨ (S.world.store c).closed = true)) := by
  have hphysical := hS.physical_known c hc
  -- a store is written
  have hstore : ∀ (w : World) (d : ConnectionId) (store : Store),
      ((w.setStore d store).connection c).closed = (w.connection c).closed := fun w d store =>
    w.connection_updateConnection_congr d
      (fun connection =>
        { connection with attributes := connection.attributes.insert .store store })
      Connection.closed (fun _ => rfl) c
  -- another line is closed
  have hcut : ∀ {line : PhysicalConnectionId}, line ≠ (S.world.connection c).physical →
      ((S.world.driver.closeConnection line).connection (S.world.connection c).physical).closed
        = (S.world.driver.connection (S.world.connection c).physical).closed := by
    intro line hne
    rw [Driver.closed_closeConnection]
    simp [hne]
  -- a line is opened
  have hdial : (S.world.driver.openConnection.1.connection
      (S.world.connection c).physical).closed
        = (S.world.driver.connection (S.world.connection c).physical).closed :=
    congrArg PhysicalConnection.closed (Registry.get_register_of_known _ hphysical)
  cases h with
  | book hw =>
      have hclosed := congrArg Connection.closed (hw.connection c)
      exact Or.inl ⟨hclosed, by rw [Driver.connection, hw.lines, ← Driver.connection]⟩
  | use usage _ =>
      refine Or.inl ⟨rfl, ?_⟩
      show ((S.world.driver.use usage _).connections.get _).closed = _
      rw [Driver.connections_use]
      rfl
  | shut _ | dispose _ =>
      refine Or.inl ⟨rfl, ?_⟩
      show ((S.world.driver.closeStatement _).1.connections.get _).closed = _
      rw [Driver.connections_closeStatement]
      rfl
  | @hit _ _ _ _ binding _ _ _ _ _ _ _ _ =>
      rcases binding with ⟨d, _ | n⟩ <;> exact Or.inl ⟨hstore _ _ _, rfl⟩
  | park _ _ _ _ _ _ _ | take _ _ _ _ | tally _ _ _ | drain _ _ =>
      exact Or.inl ⟨hstore _ _ _, rfl⟩
  | @repay n _ _ => cases n <;> exact Or.inl ⟨rfl, rfl⟩
  | dial => exact Or.inl ⟨rfl, hdial⟩
  | @cut line hl => exact Or.inl ⟨rfl, hcut (hS.lines_apart line hl c hc).symm⟩
  | misdial =>
      refine Or.inl ⟨rfl, ?_⟩
      show ((S.world.driver.openConnection.1.closeConnection _).connection _).closed = _
      rw [Driver.closed_closeConnection, hdial]
      simp [Registry.next_ne hphysical]
  | @hangUp d hd hs =>
      by_cases hdc : d = c
      · subst hdc
        refine Or.inr ⟨?_, ?_, hs⟩
        · show ((S.world.updateConnection _ _).connection _).closed = true
          rw [World.connection_updateConnection, if_pos ⟨rfl, hd⟩]
        · show ((S.world.driver.closeConnection _).connection _).closed = true
          rw [Driver.closed_closeConnection]
          simp
      · refine Or.inl ⟨?_, hcut fun he => hdc (hS.physical_inj hd hc he)⟩
        show ((S.world.updateConnection _ _).connection _).closed = _
        rw [World.connection_updateConnection, if_neg fun h => hdc h.1]
  | @connect p w chain metadata _ _ =>
      refine Or.inl ⟨?_, hdial⟩
      exact congrArg Connection.closed (Registry.get_register_of_known _ hc)
  | _ => exact Or.inl ⟨rfl, rfl⟩

/-! ## Every turn keeps the stores in order -/

theorem Step.stocked (h : Step S S') (hS : S.Wired) (ht : S.Traced) (ho : S.Owned)
    (hown : S.own = []) (hs : S.Stocked) : S'.Stocked := by
  obtain ⟨hlater, -⟩ := h.later_and_wired hS
  refine ⟨fun {c key tracked} he => ?_, fun c hc => ?_, fun c hclosed => ?_⟩
  · rcases h.entry hS hown he with he | ⟨-, -, -, hrested⟩
    · obtain ⟨id, hid, hr⟩ := hs.rested he
      obtain ⟨hhands, hloose⟩ := ho.apart_of_parked (World.mem_parkedHandles he) hid
      have hknown := ht.targets id (mem_targets.mpr (Or.inr ⟨_, World.mem_parkedHandles he, hid⟩))
      exact ⟨id, hid, by rwa [h.statement_eq hknown hhands hloose]⟩
    · exact hrested
  · rcases h.known_connection hc with hc | hnew
    · rw [Connection.physical_of_frame (hlater.connections c hc).2]
      rcases h.line hS hc with ⟨hclosed, hline⟩ | ⟨hclosed, hline, -⟩
      · rw [hclosed, hline]
        exact hs.lines c hc
      · rw [hclosed, hline]
    · rw [hnew.live.1, hnew.live.2]
  · by_cases hc : S.world.connections.Known c
    · rw [Connection.caches_of_frame (hlater.connections c hc).2]
      rcases h.line hS hc with ⟨hsame, -⟩ | ⟨-, -, hd⟩
      · rw [hsame] at hclosed
        exact (hs.drained c hclosed).imp_right (hlater.drained c)
      · exact hd.imp_right (hlater.drained c)
    · by_cases hc' : S'.world.connections.Known c
      · rw [((h.known_connection hc').resolve_left hc).live.1] at hclosed
        exact nomatch hclosed
      · left
        rw [World.connection, Registry.get_of_not_known hc']
        rfl

theorem Turn.stocked (h : Turn S S') (hS : S.Wired) (ht : S.Traced) (ho : S.Owned)
    (hown : S.own = []) (hs : S.Stocked) : S'.Stocked := by
  cases h with
  | step h => exact h.stocked hS ht ho hown hs
  | @count p _ hn _ =>
      rw [S.world.startCounting_of_none hn]
      exact ⟨hs.rested, hs.lines, hs.drained⟩
  | _ => exact ⟨hs.rested, hs.lines, hs.drained⟩

/-- A statement is parked on an open connection only. -/
theorem Stocked.open_of_parked (hs : S.Stocked) (hS : S.Wired) (hsourced : S.Sourced)
    {c : ConnectionId} {key : CacheKey} {tracked : Tracked}
    (he : (S.world.store c).entries.get? key = some tracked) :
    (S.world.connection c).closed = false
      ∧ (S.world.driver.connection (S.world.connection c).physical).closed = false := by
  have hmem := (hsourced.entries he).cache
  have hopen : (S.world.connection c).closed = false := by
    by_contra hclosed
    rcases hs.drained c (by simpa using hclosed) with hnone | hdrained
    · rw [hnone] at hmem
      exact nomatch hmem
    · have hbag := (Table.mem_bag _ _ _).mpr he
      rw [hS.drained c hdrained] at hbag
      exact absurd hbag (Multiset.notMem_zero _)
  exact ⟨hopen, (hs.lines c (World.known_of_mem_caches hmem)).trans hopen⟩

end Scene

end ConnectionPool
