import ConnectionPool.Proofs.Closing.Sealed
import ConnectionPool.Proofs.Pool.Acquiring
import ConnectionPool.Proofs.Scene.Stock
import ConnectionPool.Proofs.Session.Hits

/-!
# Tearing a connection down empties its store

All facades of a handle that was obtained on a connection belong to caches of that connection
(`Scene.Sourced.layers`), which are attached to no other store. As soon as the store of the
connection is drained, its handles are therefore sealed: when the drain closes what was parked,
no cache further down the chain parks it again, and no other store is touched.

`Scene.InOrder.released` says what a teardown comes to: the statements that were parked are
closed in the log before the driver's connection is, the store is empty and closed for good, and
the stores of all other connections are as they were.
-/

set_option autoImplicit false

namespace ConnectionPool

namespace World

/-- **A connection has been released**, between two worlds: the driver closed every statement
that was parked on it and then its line, the store is empty and closed, and no other store was
touched. -/
structure Released (c : ConnectionId) (w w' : World) : Prop where
  log : ∃ events : DriverLog,
    w'.driver.log = w.driver.log ++ events ++ [.connectionClosed (w.connection c).physical]
      ∧ .connectionClosed (w.connection c).physical ∉ w.driver.log ++ events
      ∧ ∀ key id, w.Parks c key id → .statementClosed id ∈ events
  closed : (w'.store c).closed = true
  empty : (w'.store c).entries = Table.empty
  others : ∀ d, c ≠ d → w'.store d = w.store d

end World

theorem Table.eq_empty_of_bag {κ : Type} {β : κ → Type} {t : Table β} (h : t.bag = 0) :
    t = Table.empty := by
  obtain ⟨entries, nodup⟩ := t
  obtain rfl : entries = [] := Multiset.coe_eq_zero entries |>.mp h
  rfl

/-! ## The lines that were hung up -/

namespace Driver

/-- **The log is right about hang-ups**: a connection of which it says that it was closed is. -/
def Hung (driver : Driver) : Prop :=
  ∀ line, .connectionClosed line ∈ driver.log →
    driver.connections.Known line ∧ (driver.connection line).closed = true

variable {driver driver' : Driver}

/-- Events about no connection leave it right. -/
theorem Hung.of_connections (h : driver.Hung) {events : DriverLog}
    (hl : driver'.log = driver.log ++ events) (he : ∀ line, .connectionClosed line ∉ events)
    (hc : driver'.connections = driver.connections) : driver'.Hung := by
  intro line hm
  unfold connection
  rw [hl] at hm
  rw [hc]
  exact h line ((List.mem_append.mp hm).resolve_right (he line))

theorem Hung.windsDown (h : driver.Hung) (hd : driver.WindsDown driver') : driver'.Hung := by
  obtain ⟨events, hlog, he, -⟩ := hd.log
  exact h.of_connections hlog he hd.connections

theorem Hung.issue (h : driver.Hung) (statement : PhysicalStatement)
    {event : StatementId → DriverEvent} (he : ∀ id, (event id).made? = some id) :
    (driver.issue statement event).1.Hung := by
  refine h.of_connections rfl (fun line hm => ?_) rfl
  have hmade := he driver.statements.next
  rw [← List.mem_singleton.mp hm] at hmade
  exact nomatch hmade

theorem Hung.openConnection (h : driver.Hung) : driver.openConnection.1.Hung := by
  intro line hm
  change _ ∈ driver.log ++ [.connected driver.connections.next] at hm
  obtain ⟨hk, hc⟩ := h line ((List.mem_append.mp hm).resolve_right (by simp))
  refine ⟨(Registry.known_register _ _ _).mpr (Or.inl hk), ?_⟩
  rw [World.connection_openConnection driver hk]
  exact hc

theorem Hung.closeConnection (h : driver.Hung) {line : PhysicalConnectionId}
    (hk : driver.connections.Known line) : (driver.closeConnection line).Hung := by
  intro other hm
  have hknown : (driver.closeConnection line).connections.Known other
      ↔ driver.connections.Known other := by
    unfold Registry.Known
    rw [driver.size_connections_closeConnection line]
  rw [hknown, closed_closeConnection]
  by_cases he : line = other
  · subst he
    exact ⟨hk, by rw [decide_eq_true rfl, Bool.true_or]⟩
  · rw [decide_eq_false he, Bool.false_or]
    refine h other ?_
    unfold Driver.closeConnection at hm
    split at hm
    · exact hm
    · refine (List.mem_append.mp hm).resolve_right fun hlast => he ?_
      rw [List.mem_singleton] at hlast
      cases hlast
      rfl

end Driver

namespace Scene

variable {S S' : Scene}

/-- Every step leaves the log right about hang-ups. -/
theorem Step.hung (h : Step S S') (hS : S.Wired) (hd : S.world.driver.Hung) :
    S'.world.driver.Hung := by
  cases h with
  | book hw =>
      refine hd.of_connections ?_ (fun _ => List.not_mem_nil) hw.lines
      rw [hw.log, List.append_nil]
  | use usage _ => exact hd.windsDown (S.world.driver.windsDown_use usage _)
  | shut _ => exact hd.windsDown (S.world.driver.windsDown_closeStatement _)
  | dispose _ => exact hd.windsDown (S.world.driver.windsDown_closeStatement _)
  | issue _ he _ => exact hd.issue _ he
  | answer call sql _ _ =>
      show (S.world.driver.issue { sql } fun id => .prepared id sql).1.Hung
      exact hd.issue _ fun _ => rfl
  | @hit _ _ _ _ binding _ _ _ _ _ _ _ _ => rcases binding with ⟨d, _ | n⟩ <;> exact hd
  | @repay n _ _ => cases n <;> exact hd
  | dial => exact hd.openConnection
  | cut hl => exact hd.closeConnection (hS.lines_known _ hl)
  | misdial =>
      exact hd.openConnection.closeConnection ((Registry.known_register _ _ _).mpr (Or.inr rfl))
  | hangUp hk _ => exact hd.closeConnection (hS.physical_known _ hk)
  | connect _ _ _ => exact hd.openConnection
  | _ => exact hd

theorem Turn.hung (h : Turn S S') (hS : S.Wired) (hd : S.world.driver.Hung) :
    S'.world.driver.Hung := by
  cases h with
  | step h => exact h.hung hS hd
  | @count p _ hn _ =>
      have hcount : (S.world.startCounting p).driver = S.world.driver := by
        unfold World.startCounting
        rw [hn]
        rfl
      show (S.world.startCounting p).driver.Hung
      rw [hcount]
      exact hd
  | _ => exact hd

/-! ## The layers of a handle -/

/-- **All facades of a handle belong to one connection**, that on which the statement behind them
was obtained. -/
theorem Sourced.layers (hs : S.Sourced) (hS : S.Wired) {c : ConnectionId} {id : StatementId}
    (ho : S.world.Obtained c id) (handle : Statement) (hr : S.world.Rooted handle)
    (ht : handle.target? = some id) :
    ∀ layer ∈ handle.layers, layer.cache ∈ (S.world.connection c).caches := by
  induction handle with
  | physical _ => exact fun _ hm => absurd hm List.not_mem_nil
  | spent => exact fun _ hm => absurd hm List.not_mem_nil
  | facade key k inner ih =>
      intro layer hm
      obtain ⟨d, position, call, hsource⟩ := hr.1
      have hmem : k ∈ (S.world.connection d).caches :=
        (Connection.mem_caches _ k).mpr ⟨position, hsource.link⟩
      obtain rfl : d = c := hs.obtained (hr.obtained hS hmem ht) ho
      rcases List.mem_cons.mp hm with rfl | hm
      · exact hmem
      · exact ih hr.2 ht layer hm

/-- A handle of a connection is sealed as soon as the store of the connection is closed. -/
theorem Sourced.sealed (hs : S.Sourced) (hS : S.Wired) {c : ConnectionId} {id : StatementId}
    (ho : S.world.Obtained c id) {handle : Statement} (hr : S.world.Rooted handle)
    (ht : handle.target? = some id) {w : World} (hw : w.caches = S.world.caches)
    (hc : (w.store c).closed = true) : w.Sealed handle := by
  intro layer hm binding hb
  have hmem := hs.layers hS ho handle hr ht layer hm
  have hbinding : (S.world.cache layer.cache).binding = some binding := by
    unfold World.cache at hb ⊢
    rw [← hw]
    exact hb
  rw [hS.binding_connection hmem hbinding]
  exact hc

/-! ## Emptying a store -/

/-- **A scene of a client without caches of its own**, with all that holds of it. -/
structure InOrder (S : Scene) : Prop where
  sound : S.Sound
  sourced : S.Sourced
  stocked : S.Stocked
  hung : S.world.driver.Hung

theorem Turn.inOrder (h : Turn S S') (hS : S.InOrder) : S'.InOrder where
  sound := h.sound hS.sound
  sourced := h.sourced hS.sound.wired hS.sound.traced hS.sound.own hS.sourced
  stocked := h.stocked hS.sound.wired hS.sound.traced hS.sound.owned hS.sound.own hS.stocked
  hung := h.hung hS.sound.wired hS.hung

theorem Turns.inOrder (h : Turns S S') (hS : S.InOrder) : S'.InOrder := by
  induction h with
  | refl => exact hS
  | tail _ hturn ih => exact hturn.inOrder ih

variable {c : ConnectionId}

/-- What was parked on a connection is sealed as soon as the store is drained. -/
theorem InOrder.sealed_of_parked (hS : S.InOrder) {key : CacheKey} {tracked : Tracked}
    (hget : (S.world.store c).entries.get? key = some tracked) :
    (S.world.setStore c (S.world.store c).drained).Sealed tracked.delegate := by
  have hshelved := hS.sourced.entries hget
  obtain ⟨id, hid⟩ := hshelved.target
  have hobtained := hshelved.rooted.obtained hS.sound.wired hshelved.cache hid
  have hknown := World.known_of_mem_caches hshelved.cache
  refine hS.sourced.sealed hS.sound.wired hobtained hshelved.rooted.2 hid rfl ?_
  rw [World.store_setStore_self _ hknown]
  rfl

/-- A link that is told that its connection is about to be closed empties the store, if it is a
cache, and otherwise does nothing. -/
theorem InOrder.empties_deliver (hS : S.InOrder) (p : PoolId) (finalizing : Bool)
    (receiver : Receiver) (interceptor : Interceptor) :
    World.Empties c S.world
      (World.deliver p (.disconnected c finalizing) receiver interceptor S.world) := by
  have hnote : World.Empties c S.world (S.world.note receiver interceptor (.hook
      (.disconnected c finalizing) (S.world.sight p (some c)))) :=
    World.empties_same (fun _ => rfl) rfl
  cases hk : interceptor.cache? with
  | none =>
      rw [World.deliver, World.react_of_no_cache hk]
      exact hnote
  | some k =>
      refine hnote.trans ?_
      simp only [World.deliver, World.react, Interceptor.role_of_cache hk]
      exact World.empties_drain k p hS.sealed_of_parked

/-- **The chain empties the store** when it is told that the connection is about to be closed. -/
theorem InOrder.empties_tellDisconnected (hS : S.InOrder) (hc : Tidy c S) (finalizing : Bool) :
    World.Empties c S.world (S.world.tellChain c (.disconnected c finalizing)) := by
  -- from every link to the next the scene stays in order, and the store is being emptied
  have hfold : ∀ l : List (Interceptor × Nat),
      (∀ entry ∈ l, entry.1 ∈ (S.world.connection c).chain) →
      ∀ S' : Scene, S'.InOrder → TidyAfter S c S' → World.Empties c S'.world
        (l.foldl (fun w entry => World.deliver (S.world.connection c).pool
          (.disconnected c finalizing) (Receiver.link c entry.2) entry.1 w) S'.world) := by
    intro l
    induction l with
    | nil => exact fun _ S' _ _ => World.empties_same (fun _ => rfl) rfl
    | cons entry rest ih =>
        intro hl S' hS' hc'
        have hstep := steps_deliver TidyAfter.steps hc' (S.world.connection c).pool
          (Receiver.link c entry.2) entry.1 fun k hk S'' hc'' =>
            (steps_react_disconnected hc finalizing hc'' (hl entry List.mem_cons_self) hk).1
        exact (hS'.empties_deliver _ finalizing _ _).trans
          (ih (fun e he => hl e (List.mem_cons_of_mem _ he)) _ (hstep.turns.inOrder hS')
            (hc'.steps hstep))
  exact hfold _ (fun entry he => List.fst_mem_of_mem_zipIdx he) S hS (.refl hc)

/-! ## Tearing down -/

/-- A chain that is told that its connection was closed detaches its caches, and does no more. -/
theorem tellDetached_eq (hS : Tidy c S)
    (hd : (S.world.connection c).caches = [] ∨ (S.world.store c).closed = true) :
    ∃ caches journal, S.world.tellChain c (.detached c) = { S.world with caches, journal } := by
  have hreact : ∀ interceptor ∈ (S.world.connection c).chain, ∀ k, interceptor.cache? = some k →
      ∀ S' : Scene, TidyAfter S c S' → Steps S' (S'.inWorld (World.react
        (S.world.connection c).pool interceptor (.detached c) S'.world)) :=
    fun _ hi _ hk _ hS' => .single (step_react_detached hS hd hS' hi hk).1
  have hfold : ∀ l : List (Interceptor × Nat), (∀ e ∈ l, e.1 ∈ (S.world.connection c).chain) →
      ∀ S' : Scene, TidyAfter S c S' → ∃ caches journal, l.foldl (fun w entry =>
        World.deliver (S.world.connection c).pool (.detached c) (Receiver.link c entry.2) entry.1 w)
        S'.world = { S'.world with caches, journal } := by
    intro l
    induction l with
    | nil => exact fun _ S' _ => ⟨S'.world.caches, S'.world.journal, rfl⟩
    | cons entry rest ih =>
        intro hl S' hS'
        have hentry := hl entry List.mem_cons_self
        have hsteps := steps_deliver TidyAfter.steps hS' (S.world.connection c).pool
          (Receiver.link c entry.2) entry.1 (hreact entry.1 hentry)
        obtain ⟨caches, journal, hdeliver⟩ : ∃ caches journal,
            World.deliver (S.world.connection c).pool (.detached c) (Receiver.link c entry.2)
              entry.1 S'.world = { S'.world with caches, journal } := by
          cases hk : entry.1.cache? with
          | none =>
              rw [World.deliver, World.react_of_no_cache hk]
              exact ⟨S'.world.caches, _, rfl⟩
          | some k =>
              have hnote : Steps S' (S'.inWorld (S'.world.note (Receiver.link c entry.2) entry.1
                  (.hook (.detached c) (S'.world.sight (S.world.connection c).pool (some c))))) :=
                .single (steps_note S' _ entry.1 (by rintro _ _ ⟨⟩))
              have hdetach :=
                (step_react_detached hS hd (hS'.steps hnote) hentry hk).2
              exact ⟨_, _, hdetach⟩
        obtain ⟨caches', journal', hrest⟩ :=
          ih (fun e he => hl e (List.mem_cons_of_mem _ he)) _ (hS'.steps hsteps)
        refine ⟨caches', journal', ?_⟩
        rw [List.foldl_cons]
        refine hrest.trans ?_
        dsimp only [inWorld]
        rw [hdeliver]
  exact hfold _ (fun e he => List.fst_mem_of_mem_zipIdx he) S (.refl hS)

theorem store_hangUp (w : World) (c d : ConnectionId) : (w.hangUp c).store d = w.store d := by
  unfold World.hangUp
  split
  · rfl
  · exact w.store_setClosed c d

/-- **What happens after the chain was told that the connection is about to be closed**: its line
is closed, and no store is touched. -/
theorem teardown_ends (hS : Tidy c S) (h : S.world.Live c)
    (hd : (S.world.connection c).caches = [] ∨ (S.world.store c).closed = true) :
    let w' := ((S.world.hangUp c).tellChain c (.detached c)).updateMetadata c
      fun metadata => metadata.enter .closed
    w'.driver.log = S.world.driver.log ++ [.connectionClosed (S.world.connection c).physical]
      ∧ ∀ d, w'.store d = S.world.store d := by
  have hhang := steps_hangUp hS hd
  have hlater := (hhang.later_and_wired hS.wired).1
  obtain ⟨caches, journal, hdetached⟩ :=
    tellDetached_eq (hS.steps hhang) (drained_of_later hS.known hlater hd)
  dsimp only [inWorld] at hdetached
  rw [hdetached]
  refine ⟨World.log_hangUp h, fun d => ?_⟩
  exact ((World.sameCaching_updateMetadata _ c _).store d).trans (store_hangUp S.world c d)

/-- The chain is told that the connection is about to be closed: nothing is parked there any
more. -/
theorem InOrder.emptied (hS : S.InOrder) (hc : Tidy c S)
    (hcaches : (S.world.connection c).caches ≠ []) (finalizing : Bool) :
    World.Empties c S.world (S.world.tellChain c (.disconnected c finalizing))
      ∧ ((S.world.tellChain c (.disconnected c finalizing)).store c).closed = true
      ∧ ((S.world.tellChain c (.disconnected c finalizing)).store c).entries = Table.empty := by
  have hsteps := steps_tellDisconnected hc finalizing
  have hclosed := (drained_of_tellDisconnected hc finalizing).resolve_left hcaches
  exact ⟨hS.empties_tellDisconnected hc finalizing, hclosed,
    Table.eq_empty_of_bag ((hc.steps hsteps).wired.drained c hclosed)⟩

/-- A connection is open as long as its line is. -/
theorem InOrder.live (hS : S.InOrder) (hk : S.world.connections.Known c)
    (hline : (S.world.driver.connection (S.world.connection c).physical).closed = false) :
    S.world.Live c :=
  ⟨hk, (hS.stocked.lines c hk).symm.trans hline, hline⟩

/-- **A connection that is torn down is released**, whatever fails on the way. -/
theorem InOrder.released (hS : S.InOrder) (hc : Tidy c S) (hlive : S.world.Live c)
    (hcaches : (S.world.connection c).caches ≠ []) (finalizing : Bool) :
    World.Released c S.world (World.teardown finalizing S.world c) := by
  -- the connection is marked as closing, and the chain is told
  obtain ⟨w₁, hw₁⟩ : ∃ w₁, w₁ = S.world.updateMetadata c fun metadata => metadata.enter .closing :=
    ⟨_, rfl⟩
  have hbook : S.world.SameCaching w₁ := by
    rw [hw₁]
    exact S.world.sameCaching_updateMetadata c _
  have hdriver : w₁.driver = S.world.driver := by
    rw [hw₁]
    rfl
  have hclosing : Steps S (S.inWorld w₁) := .single (.book hbook)
  have hS₁ := hclosing.turns.inOrder hS
  have hc₁ := hc.steps hclosing
  have hcaches₁ : (w₁.connection c).caches ≠ [] := by
    rw [Connection.caches_of_frame (hbook.frame c)]
    exact hcaches
  obtain ⟨w₂, hw₂⟩ : ∃ w₂, w₂ = w₁.tellChain c (.disconnected c finalizing) := ⟨_, rfl⟩
  have htell : Steps (S.inWorld w₁) (S.inWorld w₂) := by
    rw [hw₂]
    exact steps_tellDisconnected hc₁ finalizing
  obtain ⟨hempties, hclosed, hempty⟩ : World.Empties c w₁ w₂ ∧ (w₂.store c).closed = true
      ∧ (w₂.store c).entries = Table.empty := by
    rw [hw₂]
    exact hS₁.emptied hc₁ hcaches₁ finalizing
  have hall : World.Empties c S.world w₂ :=
    (World.empties_same hbook.store hdriver).trans hempties
  -- its line is open until now
  have hS₂ := htell.turns.inOrder hS₁
  obtain ⟨hknown, hframe⟩ :=
    ((hclosing.trans htell).later_and_wired hc.wired).1.connections c hc.known
  have hphysical : (w₂.connection c).physical = (S.world.connection c).physical :=
    Connection.physical_of_frame hframe
  have hlive₂ : w₂.Live c := by
    refine hS₂.live hknown ?_
    show (w₂.driver.connection (w₂.connection c).physical).closed = false
    rw [hphysical, Driver.connection, hall.driver.connections]
    exact hlive.line
  -- then it is closed
  obtain ⟨hlog, hstore⟩ := teardown_ends (hc₁.steps htell) hlive₂ (Or.inr hclosed)
  have hteardown : World.teardown finalizing S.world c
      = ((w₂.hangUp c).tellChain c (.detached c)).updateMetadata c
          fun metadata => metadata.enter .closed := by
    rw [hw₂, hw₁]
    rfl
  dsimp only [inWorld] at hlog hstore
  rw [← hteardown] at hlog hstore
  obtain ⟨events, hevents, hlines, hclosings⟩ := hall.driver.log
  refine ⟨⟨events, ?_, fun hm => ?_, ?_⟩, ?_, ?_, fun d hd => ?_⟩
  · rw [hlog, hevents, hphysical]
  · rcases List.mem_append.mp hm with hm | hm
    · exact absurd ((hS.hung _ hm).2.symm.trans hlive.line) (by decide)
    · exact hlines _ hm
  · rintro key id ⟨tracked, hget, hid⟩
    obtain ⟨id', hid', hrested⟩ := hS.stocked.rested hget
    obtain rfl : id' = id := Option.some.inj (hid'.symm.trans hid)
    refine hclosings id' hrested.1 ?_
    refine (hall.parked hget).elim (fun hstill => ?_) fun hdone => hdone id' hid
    rw [hempty] at hstill
    cases hstill
  · rw [hstore]
    exact hclosed
  · rw [hstore]
    exact hempty
  · rw [hstore]
    exact hall.others d hd

end Scene

end ConnectionPool
