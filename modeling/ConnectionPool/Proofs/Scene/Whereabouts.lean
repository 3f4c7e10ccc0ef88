import ConnectionPool.Proofs.Scene.Wiring
import Mathlib.Data.Multiset.Filter

/-!
# What becomes of the driver's statements

Whatever happens in a scene, the driver's statements that its handles reach change in one of
five ways (`Scene.Effect`): not at all, by one that is made, by one that is closed and let go
of, by one that a client closes and keeps, or by one that is given to a client bare. Parking a
statement and taking it out again moves a handle between the hands and the stores, and changes
nothing about what is reached.
-/

set_option autoImplicit false

namespace ConnectionPool

namespace Store

theorem facades_park {store : Store} {key : CacheKey} (tracked : Tracked)
    (h : store.entries.get? key = none) :
    (store.park key tracked).facades = tracked.facade ::ₘ store.facades := by
  rw [facades, park, Table.bag_insert_of_free _ _ h, Multiset.map_cons, ← facades]

theorem facades_of_erase {store store' : Store} {key : CacheKey} {tracked : Tracked}
    (h : store.entries.get? key = some tracked) (he : store'.entries = store.entries.erase key) :
    tracked.facade ::ₘ store'.facades = store.facades := by
  rw [facades, facades, he, ← Table.bag_erase _ h, Multiset.map_cons]

theorem facades_congr {store store' : Store} (h : store'.entries.bag = store.entries.bag) :
    store'.facades = store.facades := by
  rw [facades, h, ← facades]

@[simp] theorem facades_drained (store : Store) : store.drained.facades = 0 := rfl

@[simp] theorem facades_default : (default : Store).facades = 0 := rfl

end Store

namespace World

/-! ## The parked handles -/

theorem parkedHandles_setStore {w : World} {c : ConnectionId} (hc : w.connections.Known c)
    (store : Store) :
    (w.setStore c store).parkedHandles + (w.store c).facades
      = w.parkedHandles + store.facades :=
  w.total_setStore hc store fun _ store => store.facades

theorem parkedHandles_tally {w : World} {c : ConnectionId} {store : Store}
    (h : store.entries.bag = (w.store c).entries.bag) :
    (w.setStore c store).parkedHandles = w.parkedHandles := by
  refine total_congr (Registry.size_modify _ _ _) fun d _ => ?_
  rw [store_setStore]
  split
  · next hcd =>
      obtain ⟨rfl, -⟩ := hcd
      exact Store.facades_congr h
  · rfl

theorem parkedHandles_congr {w w' : World} (hs : w'.connections.size = w.connections.size)
    (h : ∀ c, w'.store c = w.store c) : w'.parkedHandles = w.parkedHandles :=
  total_congr hs fun c _ => by rw [h c]

theorem parkedHandles_releaseSlot (w : World) (n : Option CounterId) :
    (w.releaseSlot n).parkedHandles = w.parkedHandles := by
  cases n <;> rfl

theorem known_of_binding {w : World} {lines : List PhysicalConnectionId} {own : List CacheId}
    (h : w.Wired lines own) {k : CacheId} {binding : Binding}
    (hb : (w.cache k).binding = some binding) : w.connections.Known binding.connection :=
  known_of_isSome_store? (h.bound hb).1

/-- Taking a statement out of a store. -/
theorem parkedHandles_take {w : World} {c : ConnectionId} {key : CacheKey} {tracked : Tracked}
    {store : Store} (hc : w.connections.Known c)
    (hf : (w.store c).entries.get? key = some tracked)
    (he : store.entries = (w.store c).entries.erase key) :
    tracked.facade ::ₘ (w.setStore c store).parkedHandles = w.parkedHandles := by
  have h := parkedHandles_setStore hc store
  rw [← Store.facades_of_erase hf he, Multiset.add_cons, ← Multiset.cons_add] at h
  exact add_right_cancel h

/-- Parking a statement in a store. -/
theorem parkedHandles_park {w : World} {c : ConnectionId} {key : CacheKey} (tracked : Tracked)
    (hc : w.connections.Known c) (hf : (w.store c).entries.get? key = none) :
    (w.setStore c ((w.store c).park key tracked)).parkedHandles
      = tracked.facade ::ₘ w.parkedHandles := by
  have h := parkedHandles_setStore hc ((w.store c).park key tracked)
  rw [Store.facades_park tracked hf, Multiset.add_cons, ← Multiset.cons_add] at h
  exact add_right_cancel h

end World

/-! ## Which statements live -/

/-- The driver knows the same statements, has closed the same ones, and logged no closing; a
closed statement has no result set if none had. -/
structure Driver.SameLives (d d' : Driver) : Prop where
  known : ∀ id, d'.statements.Known id ↔ d.statements.Known id
  closed : ∀ id, (d'.statement id).closed = (d.statement id).closed
  closings : DriverLog.closings d'.log = DriverLog.closings d.log
  settled : d.Settled → d'.Settled

/-- Nothing is done to statements. -/
theorem Driver.sameLives_of_statements {d d' : Driver} (hs : d'.statements = d.statements)
    (hl : DriverLog.closings d'.log = DriverLog.closings d.log) : d.SameLives d' := by
  have hst : ∀ id, d'.statement id = d.statement id := fun id => by
    rw [statement, hs, ← statement]
  refine ⟨fun _ => by rw [hs], fun id => by rw [hst], hl, fun h id hc => ?_⟩
  rw [hst] at hc ⊢
  exact h id hc

theorem Driver.SameLives.refl (d : Driver) : d.SameLives d := sameLives_of_statements rfl rfl

theorem Driver.sameLives_use (d : Driver) (usage : Usage) (id : StatementId) :
    d.SameLives (d.use usage id) :=
  ⟨fun _ => d.known_use _ _ _, fun _ => d.closed_use _ _ _, d.closings_use _ _,
    fun h => h.use usage id⟩

theorem Driver.sameLives_closeConnection (d : Driver) (line : PhysicalConnectionId) :
    d.SameLives (d.closeConnection line) :=
  sameLives_of_statements (d.statements_closeConnection line) (d.closings_closeConnection line)

theorem Driver.sameLives_openConnection (d : Driver) : d.SameLives d.openConnection.1 := by
  refine sameLives_of_statements rfl ?_
  show DriverLog.closings (d.log ++ [.connected d.connections.next]) = _
  rw [DriverLog.closings, List.filterMap_append]
  exact List.append_nil _

theorem Driver.SameLives.trans {d d' d'' : Driver} (h : d.SameLives d') (h' : d'.SameLives d'') :
    d.SameLives d'' :=
  ⟨fun id => (h'.known id).trans (h.known id), fun id => (h'.closed id).trans (h.closed id),
    h'.closings.trans h.closings, fun hs => h'.settled (h.settled hs)⟩

namespace Scene

/-- The driver's statements that handles reach. -/
def targets (S : Scene) : Multiset StatementId := S.handles.filterMap Statement.target?

/-- **The effect of a step on the driver's statements.** -/
inductive Effect (S S' : Scene) : Prop
  | kept (ht : S'.targets = S.targets) (hl : S'.loose = S.loose)
      (hd : S.world.driver.SameLives S'.world.driver)
  | made (statement : PhysicalStatement) (event : StatementId → DriverEvent)
      (ht : S'.targets = S.world.driver.statements.next ::ₘ S.targets) (hl : S'.loose = S.loose)
      (hr : statement.Rested) (he : ∀ id, (event id).made? = some id)
      (hd : S'.world.driver = (S.world.driver.issue statement event).1)
  | disposed (id : StatementId) (ht : S.targets = id ::ₘ S'.targets) (hl : S'.loose = S.loose)
      (hd : S'.world.driver = (S.world.driver.closeStatement id).1)
  | shut (id : StatementId) (hid : id ∈ S.loose) (ht : S'.targets = S.targets)
      (hl : S'.loose = S.loose) (hd : S'.world.driver = (S.world.driver.closeStatement id).1)
  | given (id : StatementId) (ht : S.targets = id ::ₘ S'.targets)
      (hl : S'.loose = id ::ₘ S.loose) (hw : ¬ S.world.Wrapped id) (hs : S'.world = S.world)

variable {S S' : Scene}

/-- A handle is held besides that reaches a statement. -/
theorem targets_cons {T : Scene} {h : Statement} {id : StatementId} (ht : h.target? = some id)
    (hh : S.hands = h ::ₘ T.hands) (hp : S.world.parkedHandles = T.world.parkedHandles) :
    S.targets = id ::ₘ T.targets := by
  rw [targets, targets, handles, handles, hh, hp, Multiset.cons_add,
    Multiset.filterMap_cons_some _ _ _ ht]

/-- A handle is held besides that reaches nothing. -/
theorem targets_cons_spent {T : Scene} {h : Statement} (ht : h.target? = none)
    (hh : S.hands = h ::ₘ T.hands) (hp : S.world.parkedHandles = T.world.parkedHandles) :
    S.targets = T.targets := by
  rw [targets, targets, handles, handles, hh, hp, Multiset.cons_add,
    Multiset.filterMap_cons_none _ _ ht]

theorem targets_of_hands (hs : S'.world = S.world) {h h' : Statement} {H : Multiset Statement}
    (hh : S.hands = h ::ₘ H) (hh' : S'.hands = h' ::ₘ H) (ht : h'.target? = h.target?) :
    S'.targets = S.targets := by
  have hp : S'.world.parkedHandles = ({ S with hands := H } : Scene).world.parkedHandles := by
    rw [hs]
  cases hid : h.target? with
  | none =>
      exact (targets_cons_spent (T := { S with hands := H }) (ht.trans hid) hh' hp).trans
        (targets_cons_spent (T := { S with hands := H }) hid hh rfl).symm
  | some id =>
      exact (targets_cons (T := { S with hands := H }) (ht.trans hid) hh' hp).trans
        (targets_cons (T := { S with hands := H }) hid hh rfl).symm

theorem targets_of_handles (h : S'.handles = S.handles) : S'.targets = S.targets := by
  rw [targets, h, ← targets]

/-- **What a step does to the driver's statements.** Whatever moves between the hands and the
stores is reached as before; only what the driver does makes a difference. -/
theorem Step.effect (h : Step S S') (hS : S.Wired) : Effect S S' := by
  cases h with
  | book hw =>
      refine .kept (targets_of_handles ?_) rfl
        (Driver.sameLives_of_statements hw.statements (by rw [hw.log]))
      show S.hands + _ = S.hands + _
      rw [World.parkedHandles_congr hw.connections_size hw.store]
  | use usage _ => exact .kept rfl rfl (Driver.sameLives_use _ _ _)
  | shut h => exact .shut _ h rfl rfl rfl
  | dispose h => exact .disposed _ (targets_cons rfl h rfl) rfl rfl
  | peel h => exact .kept (targets_of_hands rfl h rfl rfl) rfl (.refl _)
  | @lapse H h =>
      exact .kept (targets_cons_spent (T := { S with hands := H }) rfl h rfl).symm rfl (.refl _)
  | spend => exact .kept (targets_cons_spent (h := .spent) rfl rfl rfl) rfl (.refl _)
  | give h hw => exact .given _ (targets_cons rfl h rfl) rfl hw rfl
  | @issue statement event hr he _ =>
      exact .made statement event (targets_cons (h := .physical _) rfl rfl rfl) rfl hr he rfl
  | @answer c position interceptor call sql _ _ =>
      exact .made { sql } (fun id => .prepared id sql)
        (targets_cons (h := .physical _) rfl rfl rfl) rfl ⟨rfl, rfl, fun h => nomatch h⟩
        (fun _ => rfl) rfl
  | passUp _ _ _ _ _ | handOut _ _ _ _ _ => exact .kept rfl rfl (.refl _)
  | fill h _ _ _ _ => exact .kept (targets_of_hands rfl h rfl rfl) rfl (.refl _)
  | @hit c position interceptor k binding key tracked call hl hk hb _ hf =>
      refine .kept (targets_of_handles ?_) rfl (by rcases binding with ⟨c, _ | n⟩ <;> exact .refl _)
      show tracked.facade ::ₘ S.hands + (S.world.found binding key).parkedHandles
        = S.hands + S.world.parkedHandles
      have htake : tracked.facade ::ₘ (S.world.setStore binding.connection
          ((S.world.store binding.connection).remove key).recordHit).parkedHandles
            = S.world.parkedHandles :=
        World.parkedHandles_take (World.known_of_binding hS hb) hf rfl
      rw [World.found, World.parkedHandles_releaseSlot, ← htake, Multiset.cons_add,
        Multiset.add_cons]
  | @park key k inner id c n H h hb hn hc hf ht hr =>
      refine .kept (targets_of_handles ?_) rfl (.refl _)
      show H + _ = S.hands + S.world.parkedHandles
      have hp := World.parkedHandles_park (w := S.world.updateCounter n fun _ =>
        ⟨(S.world.counter n).count + 1⟩) ⟨some key, k, inner⟩ (World.known_of_binding hS hb) hf
      rw [h]
      exact (congrArg (H + ·) hp).trans (by
        rw [Multiset.add_cons, Multiset.cons_add]
        rfl)
  | @take k binding key tracked store hb hf he hc =>
      refine .kept (targets_of_handles ?_) rfl (.refl _)
      show tracked.facade ::ₘ S.hands + _ = S.hands + S.world.parkedHandles
      rw [← World.parkedHandles_take (World.known_of_binding hS hb) hf he, Multiset.cons_add,
        Multiset.add_cons]
  | tally c he hc =>
      refine .kept (targets_of_handles ?_) rfl (.refl _)
      show S.hands + _ = S.hands + _
      rw [World.parkedHandles_tally he]
  | @drain c k hk hb =>
      refine .kept (targets_of_handles ?_) rfl (.refl _)
      show (S.world.store c).facades + S.hands + _ = S.hands + S.world.parkedHandles
      have hp := World.parkedHandles_setStore (World.known_of_mem_caches hk)
        (S.world.store c).drained
      rw [Store.facades_drained, add_zero] at hp
      rw [← hp]
      abel
  | @repay n O h =>
      refine .kept (targets_of_handles ?_) rfl (by cases n <;> exact .refl _)
      show S.hands + _ = S.hands + _
      rw [World.parkedHandles_releaseSlot]
  | attach _ _ _ | detach _ => exact .kept rfl rfl (.refl _)
  | dial => exact .kept rfl rfl (Driver.sameLives_openConnection _)
  | cut _ => exact .kept rfl rfl (Driver.sameLives_closeConnection _ _)
  | misdial =>
      exact .kept rfl rfl ((Driver.sameLives_openConnection _).trans
        (Driver.sameLives_closeConnection _ _))
  | @hangUp c hk hs =>
      refine .kept (targets_of_handles ?_) rfl (Driver.sameLives_closeConnection _ _)
      exact congrArg (S.hands + ·)
        (World.parkedHandles_congr (Registry.size_modify _ _ _) (S.world.store_setClosed c))
  | @connect p w chain metadata hp hw =>
      -- the new connection has no store yet
      refine .kept (targets_of_handles ?_) rfl (Driver.sameLives_openConnection _)
      refine congrArg (S.hands + ·) ?_
      exact (World.total_register { S.world with
        driver := S.world.driver.openConnection.1, caches := w.caches } _ _).trans (add_zero _)

/-- **What a turn does to the driver's statements.** -/
theorem Turn.effect (h : Turn S S') (hS : S.Wired) : Effect S S' := by
  cases h with
  | step h => exact h.effect hS
  | found _ => exact .kept rfl rfl (.refl _)
  | @count p _ hn _ =>
      rw [S.world.startCounting_of_none hn]
      exact .kept rfl rfl (.refl _)
  | close _ _ => exact .kept rfl rfl (.refl _)
  | uncount _ => exact .kept rfl rfl (.refl _)

theorem Effect.settled (h : Effect S S') (hs : S.world.driver.Settled) :
    S'.world.driver.Settled := by
  cases h with
  | kept _ _ hd => exact hd.settled hs
  | made statement event _ _ hr _ hd => rw [hd]; exact hs.issue hr event
  | disposed id _ _ hd => rw [hd]; exact hs.closeStatement id
  | shut id _ _ _ hd => rw [hd]; exact hs.closeStatement id
  | given _ _ _ _ hw => rw [hw]; exact hs

end Scene

end ConnectionPool
