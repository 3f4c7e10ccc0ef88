import ConnectionPool.Proofs.Driver.Acting
import ConnectionPool.Proofs.Scene.Calling
import ConnectionPool.Proofs.World.Signals

/-!
# What goes on inside the chains

Whatever interceptors do when they are called or told something is made up of a few deeds: they
note calls and answers, keep stores and counters, attach themselves, and have the driver serve
statements. `World.Deeds` is any number of these, one after the other. That an operation is made
up of deeds is shown here once; what deeds leave alone, and what they do not signal, follows for
all operations at the same time (`Deeds.emits`).
-/

set_option autoImplicit false

namespace ConnectionPool

namespace World

/-- **A deed** of an interceptor. -/
inductive Deed : World → World → Prop
  /-- Something is noted, but no hook. -/
  | note (w : World) (receiver : Receiver) (interceptor : Interceptor) {content : NoticeContent}
      (h : ∀ hook sight, content ≠ .hook hook sight) : Deed w (w.note receiver interceptor content)
  | store (w : World) (c : ConnectionId) (store : Store) : Deed w (w.setStore c store)
  | count (w : World) (n : CounterId) (change : Counter → Counter) :
      Deed w (w.updateCounter n change)
  /-- There is one more counter. -/
  | counter (w : World) : Deed w { w with counters := w.counters.register {} }
  /-- A counter is given to a pool, or taken away. -/
  | charge (w : World) (p : PoolId)
      (change : Attributes PoolAttribute.Value → Attributes PoolAttribute.Value) :
      Deed w (w.updatePool p fun pool => { pool with attributes := change pool.attributes })
  /-- A cache is attached to something else, or to nothing. -/
  | bind (w : World) (k : CacheId) (binding : Option Binding) :
      Deed w (w.updateCache k fun cache => { cache with binding })
  | serve {w : World} {driver : Driver} (h : w.driver.Serves driver) (ha : w.driver.Acts driver) :
      Deed w { w with driver }
  /-- A fault of wrapping is used up. -/
  | spend (w : World) (due : Nat) : Deed w { w with wrapFaults := due }

/-- **Deeds** one after the other. -/
abbrev Deeds : World → World → Prop := Relation.ReflTransGen Deed

variable {w w' w'' : World}

theorem Deed.deeds (h : Deed w w') : Deeds w w' := Relation.ReflTransGen.single h

theorem Deeds.trans (h : Deeds w w') (h' : Deeds w' w'') : Deeds w w'' :=
  Relation.ReflTransGen.trans h h'

/-- A deed is no signal. -/
theorem Deed.emits (h : Deed w w') : Emits [] w w' := by
  cases h with
  | @note receiver interceptor content hcontent =>
      have hnote := emits_note w receiver interceptor content
      have hnone : Notice.signal? ⟨receiver, interceptor, content, w.driver.log.length⟩ = none := by
        unfold Notice.signal?
        split
        · next hook sight he => exact absurd he (hcontent hook sight)
        · rfl
      rw [hnone] at hnote
      exact hnote
  | serve hserves => exact hserves.emits
  | _ => exact emits_none rfl rfl

/-- **No deed is a signal.** -/
theorem Deeds.emits (h : Deeds w w') : Emits [] w w' := by
  induction h with
  | refl => exact .refl w
  | tail _ hdeed ih => exact ih.trans hdeed.emits

/-! ## The driver's statements -/

theorem deeds_use (w : World) (usage : Usage) (id : StatementId) :
    Deeds w { w with driver := w.driver.use usage id } :=
  (Deed.serve (w.driver.serves_use usage id) (Driver.Act.use usage id).acts).deeds

theorem deeds_closeStatement (w : World) (id : StatementId) :
    Deeds w { w with driver := (w.driver.closeStatement id).1 } :=
  (Deed.serve (w.driver.serves_closeStatement id) (Driver.Act.closeStatement id).acts).deeds

theorem deeds_issue (w : World) {statement : PhysicalStatement} (hr : statement.Rested)
    (event : StatementId → DriverEvent) (he : ∀ id, (event id).made? = some id) :
    Deeds w { w with driver := (w.driver.issue statement event).1 } :=
  (Deed.serve (w.driver.serves_issue statement he) (Driver.Act.issue hr he).acts).deeds

theorem deeds_prepareBy (w : World) (line : PhysicalConnectionId) (call : Call)
    {event : StatementId → String → DriverEvent}
    (he : ∀ id sql, (event id sql).made? = some id) :
    Deeds w { w with driver := (w.driver.prepareBy line call event).1 } := by
  unfold Driver.prepareBy
  split
  · exact .refl
  · split
    · exact .refl
    · next sql _ =>
        exact w.deeds_issue (.fresh sql (some (line, call))) _ fun id => he id sql

theorem deeds_createStatement (w : World) (line : PhysicalConnectionId) :
    Deeds w { w with driver := (w.driver.createStatement line).1 } := by
  unfold Driver.createStatement
  split
  · exact .refl
  · exact w.deeds_issue (.fresh "" (some (line, ⟨.createStatement, []⟩))) .created fun _ => rfl

theorem deeds_onTarget {α : Type} (w : World) (handle : Statement)
    {action : StatementId → Driver → Driver × Except DriverError α} (usage : Usage)
    (h : ∀ id driver, (action id driver).1 = driver.use usage id) :
    Deeds w (w.onTarget handle action).1 := by
  unfold onTarget
  split
  · exact .refl
  · next id _ =>
      have huse := w.deeds_use usage id
      rw [← h id w.driver] at huse
      exact huse

theorem deeds_closeResultSet (w : World) (handle : Statement) :
    Deeds w (w.closeResultSet handle).1 := by
  unfold closeResultSet
  split
  · next id _ _ _ => exact w.deeds_use .closeResultSet id
  · exact .refl

theorem deeds_reset (w : World) (handle : Statement) : Deeds w (w.reset handle).1 := by
  cases ht : handle.target? with
  | none =>
      rw [w.reset_of_spent ht]
  | some id =>
      obtain ⟨hw | hw | hw, -⟩ := w.reset_cases ht
      · rw [hw]
        exact w.deeds_use .clearParameters id
      · rw [hw]
        exact w.deeds_use .closeResultSet id
      · rw [hw]
        exact (w.deeds_use .closeResultSet id).trans (deeds_use _ .clearParameters id)

theorem deeds_takeBack (w : World) (tracked : Tracked) : Deeds w (w.takeBack tracked).1 := by
  obtain ⟨key, k, inner⟩ := tracked
  obtain ⟨key', id, c, n, w', -, -, -, hr, -, -, -, h⟩ | h | h := w.takeBack_cases key k inner
  · have hreset := w.deeds_reset inner
    rw [hr] at hreset
    rw [h]
    exact (hreset.tail (.count w' n _)).tail (.store _ c _)
  · rw [h]
    exact w.deeds_reset inner
  · rw [h]

theorem deeds_close (handle : Statement) : ∀ w : World, Deeds w (close handle w).1 := by
  induction handle with
  | physical id => exact fun w => w.deeds_closeStatement id
  | spent => exact fun w => .refl
  | facade key k inner ih =>
      intro w
      have hback := w.deeds_takeBack ⟨key, k, inner⟩
      unfold close
      split
      · next hw =>
          rw [hw] at hback
          exact hback
      · next hw =>
          rw [hw] at hback
          exact hback.trans (ih _)

theorem deeds_dropTracked (w : World) (tracked : Tracked) : Deeds w (w.dropTracked tracked) :=
  deeds_close tracked.delegate w

theorem deeds_dropHandle (w : World) (handle : Statement) : Deeds w (w.dropHandle handle) := by
  unfold dropHandle
  split
  · exact .refl
  · exact deeds_close _ w

theorem deeds_forceCloseFacade (w : World) (handle : Statement) :
    Deeds w (w.forceCloseFacade handle).1 := by
  unfold forceCloseFacade
  split
  · exact .refl
  · exact deeds_close _ w

/-! ## Stores and counters -/

theorem deeds_releaseSlot (w : World) (n : Option CounterId) : Deeds w (w.releaseSlot n) := by
  cases n with
  | none => exact .refl
  | some n => exact (Deed.count w n _).deeds

theorem deeds_provideStore (w : World) (c : ConnectionId) : Deeds w (w.provideStore c) := by
  unfold provideStore
  split
  · exact .refl
  · exact (Deed.store w c _).deeds

/-- What is made up of deeds for every element of a list is so for the list. -/
theorem deeds_foldl {α : Type} {f : World → α → World}
    (h : ∀ (w : World) (a : α), Deeds w (f w a)) (l : List α) :
    ∀ w : World, Deeds w (l.foldl f w) := by
  induction l with
  | nil => exact fun w => .refl
  | cons a l ih => exact fun w => (h w a).trans (ih _)

theorem deeds_forget (w : World) (c : ConnectionId) : Deeds w (w.forget c) := by
  rcases w.forget_cases c with hf | ⟨-, -, hf⟩
  · rw [hf]
  · rw [hf]
    exact (Deed.store w c _).deeds.trans (deeds_foldl deeds_dropTracked _ _)

theorem deeds_forgetAll (w : World) (l : List ConnectionId) : Deeds w (l.foldl forget w) :=
  deeds_foldl deeds_forget l w

theorem deeds_rebind (w : World) (k : CacheId) (binding : Option Binding) :
    Deeds w (w.rebind k binding) :=
  rebind_rule (Deed.bind w k binding).deeds fun v c hv => hv.trans (v.deeds_forget c)

theorem deeds_attach (w : World) (k : CacheId) (p : PoolId) (c : ConnectionId) :
    Deeds w (w.attach k p c) :=
  (w.deeds_provideStore c).trans (deeds_rebind _ k _)

theorem deeds_startCounting (w : World) (p : PoolId) : Deeds w (w.startCounting p) := by
  unfold startCounting
  split
  · exact .refl
  · exact (Deed.counter w).deeds.tail
      (.charge _ p fun attributes => attributes.insert .counter w.counters.next)

theorem deeds_stopCounting (w : World) (p : PoolId) : Deeds w (w.stopCounting p) :=
  (Deed.charge w p fun attributes => attributes.erase .counter).deeds

theorem deeds_drain (w : World) (k : CacheId) (p : PoolId) (c : ConnectionId) :
    Deeds w (w.drain k p c) := by
  unfold drain
  split
  · exact .refl
  · exact (Deed.store w c _).deeds.trans (deeds_foldl
      (fun v tracked => (v.deeds_releaseSlot _).trans (deeds_dropTracked _ tracked)) _ _)

/-- **What an interceptor does when it is told something.** -/
theorem deeds_react (w : World) (p : PoolId) (interceptor : Interceptor) (hook : Hook) :
    Deeds w (react p interceptor hook w) := by
  unfold react
  split
  · exact w.deeds_startCounting p
  · exact w.deeds_stopCounting p
  · exact w.deeds_attach _ p _
  · exact w.deeds_drain _ p _
  · exact w.deeds_rebind _ none
  · exact .refl

/-! ## Calls -/

theorem deeds_offer (w : World) (k : CacheId) (tracked : Tracked) :
    Deeds w (w.offer k tracked).1 := by
  unfold offer
  split
  · exact .refl
  · next binding _ =>
      obtain ⟨key, n, -, -, -, -, -, h⟩ | ⟨reason, h⟩ :=
        w.offerTo_cases (w.cache k).policy binding tracked
      · rw [h]
        exact (Deed.count w n _).deeds.tail (.store _ _ _)
      · rw [h]

theorem deeds_withdraw (w : World) (k : CacheId) (key : CacheKey) :
    Deeds w (w.withdraw k key).1 := by
  unfold withdraw
  split
  · exact .refl
  · next binding _ =>
      simp only
      split
      · exact .refl
      · exact (Deed.store w _ _).deeds.trans (deeds_releaseSlot _ _)

theorem deeds_fetch (w : World) (k : CacheId) (call : Call) : Deeds w (w.fetch k call).1 := by
  obtain (h | ⟨error, h⟩) | ⟨_, ⟨c, _⟩, -, -, -, h⟩ |
    ⟨key, binding, tracked, -, -, -, h⟩ := w.fetch_cases k call
  · rw [h]
  · rw [h]
  · rw [h]
    exact (Deed.store w c _).deeds
  · rw [h]
    exact (Deed.store w _ _).deeds.trans (deeds_releaseSlot _ _)

theorem deeds_wrap (w : World) (k : CacheId) (tracked : Tracked) :
    Deeds w (w.wrap k tracked).1 := by
  rcases w.wrap_cases k tracked with h | ⟨due, h⟩
  · rw [h]
  · rw [h]
    exact (Deed.spend w due).deeds.trans (deeds_dropTracked _ tracked)

theorem deeds_wrapPrepared (w : World) (k : CacheId) (handle : Statement) (call : Call) :
    Deeds w (w.wrapPrepared k handle call).1 :=
  w.deeds_wrap k _

theorem deeds_ask (w : World) (c : ConnectionId) (call : Call) : Deeds w (w.ask c call).1 := by
  obtain ⟨h, -⟩ | ⟨made, sql, event, -, -, hmade, -, h⟩ := w.ask_cases c call
  · rw [h]
  · rw [h]
    exact w.deeds_issue (.fresh _ _) event hmade

section Links

variable {next : Call → World → World × Answer}
  (hnext : ∀ (call : Call) (w : World), Deeds w (next call w).1)
include hnext

theorem deeds_fill (k : CacheId) (call : Call) (w : World) : Deeds w (fill k next call w).1 := by
  have h := hnext call w
  unfold fill
  split
  · next v statement hv =>
      rw [hv] at h
      have hwrap := v.deeds_wrap k (track k ((v.cache k).policy.keyFor call) statement)
      rw [wrapPrepared]
      split
      · next hw =>
          rw [hw] at hwrap
          exact h.trans hwrap
      · next hw =>
          rw [hw] at hwrap
          exact h.trans hwrap
  · exact h

theorem deeds_serve (k : CacheId) (call : Call) (w : World) : Deeds w (serve k next call w).1 := by
  have hfetch := w.deeds_fetch k call
  unfold serve
  split
  · split
    · next hv =>
        rw [hv] at hfetch
        exact hfetch
    · next hv =>
        rw [hv] at hfetch
        exact hfetch.trans (deeds_fill hnext k call _)
    · next v tracked hv =>
        rw [hv] at hfetch
        have hwrap := v.deeds_wrap k tracked
        split
        · next hw =>
            rw [hw] at hwrap
            exact hfetch.trans hwrap
        · next hw =>
            rw [hw] at hwrap
            exact (hfetch.trans hwrap).trans (deeds_fill hnext k call _)
  · exact hnext call w

theorem deeds_handle (interceptor : Interceptor) (call : Call) (w : World) :
    Deeds w (handle interceptor next call w).1 := by
  cases interceptor.conduct call with
  | serves k hk h =>
      rw [h]
      exact deeds_serve hnext k call w
  | handsOn passed hk hon hm h =>
      rw [h]
      exact hnext passed w
  | supplies hk hon hs h =>
      rw [h]
      exact w.deeds_issue (.fresh "answered" none) (fun id => .prepared id "answered") fun _ => rfl
  | answers answer hk hon hne h => rw [h]

end Links

/-- **What a call does.** -/
theorem deeds_send (c : ConnectionId) (chain : List Interceptor) :
    ∀ (position : Nat) (call : Call) (w : World), Deeds w (send c chain position call w).1 := by
  induction chain with
  | nil => exact fun _ call w => w.deeds_ask c call
  | cons interceptor rest ih =>
      intro position call w
      have hentered : Deeds w (w.note (.link c position) interceptor
          (.enter call rest.length (w.connection c).metadata.number)) :=
        .single (.note w _ _ fun _ _ h => nomatch h)
      exact (hentered.trans (deeds_handle (ih (position + 1)) interceptor call _)).tail
        (.note _ _ _ fun _ _ h => nomatch h)

theorem deeds_perform (w : World) (c : ConnectionId) (call : Call) :
    Deeds w (w.perform c call).1 :=
  deeds_send c _ 0 call w

end World

end ConnectionPool
