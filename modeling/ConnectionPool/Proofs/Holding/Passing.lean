import ConnectionPool.Proofs.Scene.Pooling
import ConnectionPool.Proofs.Scene.Whereabouts

/-!
# Statements are passed on, never copied

No statement of the driver is ever in two places: whatever handles are held somewhere, and
whatever is parked, no two of them reach the same statement (`World.Distinct`). An operation that
takes some handles and gives others back keeps it so, whoever else holds whatever else
(`World.Passes`). Such rules are put together one after the other and hold in every frame, so that
each operation has one rule, which says what it takes and what it gives.

This module has the rules of what is done with statements and of what caches do. None of them
depends on what a cache is attached to or on what a pool counts.
-/

set_option autoImplicit false

namespace ConnectionPool

namespace World

/-- The driver's statements that are reached, by what is held or by what is parked. -/
def reached (w : World) (held : Multiset Statement) : Multiset StatementId :=
  (held + w.parkedHandles).filterMap Statement.target?

/-- **No statement is in two places**, and all that are somewhere are known to the driver. -/
structure Distinct (w : World) (held : Multiset Statement) : Prop where
  nodup : (w.reached held).Nodup
  known : ∀ id ∈ w.reached held, w.driver.statements.Known id

/-- **An operation passes handles on**: it takes those of `before` and gives those of `after`, and
whatever `rest` is held besides, no statement comes to be in two places. -/
def Passes (w : World) (before : Multiset Statement) (w' : World) (after : Multiset Statement) :
    Prop :=
  ∀ rest, w.Distinct (before + rest) → w'.Distinct (after + rest)

variable {w w' w'' : World} {before after held held' : Multiset Statement} {handle : Statement}

theorem reached_add (w : World) (held held' : Multiset Statement) :
    w.reached (held + held') = w.reached held + held'.filterMap Statement.target? := by
  simp only [reached, Multiset.filterMap_add]
  abel

/-! ## Putting rules together -/

theorem Passes.refl (w : World) (held : Multiset Statement) : Passes w held w held :=
  fun _ h => h

theorem Passes.trans (h : Passes w before w' held) (h' : Passes w' held w'' after) :
    Passes w before w'' after :=
  fun rest hd => h' rest (h rest hd)

/-- More may be held than what is passed on. -/
theorem Passes.frame (h : Passes w before w' after) (held : Multiset Statement) :
    Passes w (before + held) w' (after + held) := by
  intro rest hd
  rw [add_assoc] at hd ⊢
  exact h _ hd

/-- An operation that takes nothing and gives nothing leaves what is held alone. -/
theorem Passes.beside (h : Passes w 0 w' 0) (held : Multiset Statement) :
    Passes w held w' held := by
  have hframed := h.frame held
  rwa [zero_add] at hframed

/-- An operation that makes handles leaves what is held alone. -/
theorem Passes.besides (h : Passes w 0 w' after) (held : Multiset Statement) :
    Passes w held w' (after + held) := by
  have hframed := h.frame held
  rwa [zero_add] at hframed

/-! ## The rules of one change -/

/-- What is reached afterwards was reached before. -/
theorem passes_of_reached_le (hr : w'.reached after ≤ w.reached before)
    (hk : ∀ id, w.driver.statements.Known id → w'.driver.statements.Known id) :
    Passes w before w' after := by
  intro rest ⟨hnodup, hknown⟩
  have hle : w'.reached (after + rest) ≤ w.reached (before + rest) := by
    rw [reached_add, reached_add]
    exact add_le_add_left hr _
  exact ⟨Multiset.nodup_of_le hle hnodup,
    fun id hid => hk id (hknown id (Multiset.mem_of_le hle hid))⟩

theorem reached_le_of_handles_le (h : after + w'.parkedHandles ≤ before + w.parkedHandles) :
    w'.reached after ≤ w.reached before :=
  Multiset.filterMap_le_filterMap _ h

/-- A change by which nothing is parked or taken out. -/
theorem passes_of_parkedHandles (hp : w'.parkedHandles = w.parkedHandles)
    (hk : ∀ id, w.driver.statements.Known id → w'.driver.statements.Known id) :
    Passes w 0 w' 0 :=
  passes_of_reached_le (reached_le_of_handles_le (by rw [hp])) hk

/-- Handles may be let go of. -/
theorem passes_lose (h : held' ≤ held) : Passes w held w held' :=
  passes_of_reached_le (reached_le_of_handles_le (add_le_add_left h _)) fun _ => id

/-- A handle may be exchanged for another one that reaches the same. -/
theorem passes_exchange {handle' : Statement} (h : handle'.target? = handle.target?) :
    Passes w {handle} w {handle'} := by
  refine passes_of_reached_le (le_of_eq ?_) fun _ => id
  rw [reached, reached, Multiset.singleton_add, Multiset.singleton_add, Multiset.filterMap_cons,
    Multiset.filterMap_cons, h]

/-- A handle that reaches nothing comes from nowhere. -/
theorem passes_spent : Passes w 0 w {.spent} := by
  refine passes_of_reached_le (le_of_eq ?_) fun _ => id
  rw [reached, reached, Multiset.singleton_add, Multiset.filterMap_cons, zero_add]
  exact zero_add _

/-- The driver does something that makes it forget no statement. -/
theorem passes_driver (w : World) {driver : Driver}
    (hk : ∀ id, w.driver.statements.Known id → driver.statements.Known id) :
    Passes w 0 { w with driver } 0 :=
  passes_of_parkedHandles rfl hk

/-- **The driver makes a statement**, which nothing reaches so far. -/
theorem passes_issue (w : World) (statement : PhysicalStatement)
    (event : StatementId → DriverEvent) :
    Passes w 0 { w with driver := (w.driver.issue statement event).1 }
      {.physical w.driver.statements.next} := by
  intro rest ⟨hnodup, hknown⟩
  rw [zero_add] at hnodup hknown
  have hreached : reached { w with driver := (w.driver.issue statement event).1 }
      ({.physical w.driver.statements.next} + rest)
        = w.driver.statements.next ::ₘ w.reached rest := by
    rw [reached, Multiset.singleton_add, Multiset.cons_add,
      Multiset.filterMap_cons_some Statement.target? _ _ rfl]
    rfl
  constructor
  · rw [hreached]
    exact Multiset.nodup_cons.mpr
      ⟨fun hm => w.driver.statements.not_known_next (hknown _ hm), hnodup⟩
  · intro id hid
    rw [hreached] at hid
    refine (w.driver.known_issue statement event id).mpr ?_
    rcases Multiset.mem_cons.mp hid with rfl | hid
    · exact Or.inr rfl
    · exact Or.inl (hknown id hid)

/-- **A store is changed**: what it loses is given, and what it gains is taken. -/
theorem passes_setStore (w : World) (c : ConnectionId) (store : Store)
    (h : after + store.facades = before + (w.store c).facades) :
    Passes w before (w.setStore c store) after := by
  refine passes_of_reached_le (reached_le_of_handles_le ?_) fun _ => id
  by_cases hc : w.connections.Known c
  · have hset := parkedHandles_setStore hc store
    refine le_of_eq (add_right_cancel (b := (w.store c).facades) ?_)
    calc after + (w.setStore c store).parkedHandles + (w.store c).facades
        = after + (w.parkedHandles + store.facades) := by rw [add_assoc, hset]
      _ = after + store.facades + w.parkedHandles := by abel
      _ = before + (w.store c).facades + w.parkedHandles := by rw [h]
      _ = before + w.parkedHandles + (w.store c).facades := by abel
  · -- a store of a connection that was never opened cannot be written
    have hsame : (w.setStore c store).parkedHandles = w.parkedHandles := by
      refine parkedHandles_congr (Registry.size_modify _ _ _) fun d => ?_
      rw [store_setStore]
      refine if_neg fun hd => hc ?_
      rw [hd.1]
      exact hd.2
    rw [w.store_of_not_known hc, Store.facades_default, add_zero] at h
    rw [hsame, ← h, add_assoc]
    exact add_le_add_right (Multiset.le_add_left _ _) _

theorem passes_releaseSlot (w : World) (n : Option CounterId) :
    Passes w 0 (w.releaseSlot n) 0 :=
  passes_of_parkedHandles (w.parkedHandles_releaseSlot n) (by cases n <;> exact fun _ => id)

theorem passes_note (w : World) (receiver : Receiver) (interceptor : Interceptor)
    (content : NoticeContent) : Passes w 0 (w.note receiver interceptor content) 0 :=
  passes_of_parkedHandles rfl fun _ => id

/-! ## Statements -/

theorem passes_use (w : World) (usage : Usage) (id : StatementId) :
    Passes w 0 { w with driver := w.driver.use usage id } 0 :=
  w.passes_driver fun other => ((w.driver.sameLives_use usage id).known other).mpr

theorem passes_onTarget {α : Type} (w : World) (handle : Statement)
    {action : StatementId → Driver → Driver × Except DriverError α} (usage : Usage)
    (h : ∀ id driver, (action id driver).1 = driver.use usage id) :
    Passes w 0 (w.onTarget handle action).1 0 := by
  unfold onTarget
  split
  · exact .refl w 0
  · next id _ =>
      have huse := w.passes_use usage id
      rw [← h id w.driver] at huse
      exact huse

theorem passes_closeResultSet (w : World) (handle : Statement) :
    Passes w 0 (w.closeResultSet handle).1 0 := by
  unfold closeResultSet
  split
  · next id _ _ _ => exact w.passes_use .closeResultSet id
  · exact .refl w 0

theorem passes_reset (w : World) (handle : Statement) : Passes w 0 (w.reset handle).1 0 := by
  cases ht : handle.target? with
  | none =>
      rw [w.reset_of_spent ht]
      exact .refl w 0
  | some id =>
      rcases (w.reset_cases ht).1 with h | h | h <;> rw [h]
      · exact w.passes_use .clearParameters id
      · exact w.passes_use .closeResultSet id
      · exact (w.passes_use .closeResultSet id).trans (passes_use _ .clearParameters id)

/-- A statement is parked under a key that is free. -/
theorem passes_park (w : World) (c : ConnectionId) {key : CacheKey} (tracked : Tracked)
    (change : Counter → Counter) (n : CounterId) (h : (w.store c).entries.get? key = none) :
    Passes w {tracked.facade}
      ((w.updateCounter n change).setStore c ((w.store c).park key tracked)) 0 := by
  have hcount : Passes w 0 (w.updateCounter n change) 0 := passes_of_parkedHandles rfl fun _ => id
  refine (hcount.beside {tracked.facade}).trans (passes_setStore _ c _ ?_)
  rw [Store.facades_park tracked h, zero_add, Multiset.singleton_add]
  rfl

/-- A statement that is taken back is parked, or left with whoever gave it. -/
theorem passes_takeBack (w : World) (key : Option CacheKey) (k : CacheId) (inner : Statement) :
    Passes w {inner} (w.takeBack ⟨key, k, inner⟩).1
      (if (w.takeBack ⟨key, k, inner⟩).2 then 0 else {inner}) := by
  have hreset := (w.passes_reset inner).beside {inner}
  obtain ⟨key, id, c, n, v, rfl, -, -, hr, -, -, hfree, h⟩ | h | h := w.takeBack_cases key k inner
  · rw [hr] at hreset
    rw [h, if_pos rfl]
    have hwrap : Passes v {inner} v {.facade (some key) k inner} := passes_exchange rfl
    exact (hreset.trans hwrap).trans (v.passes_park c ⟨some key, k, inner⟩ _ n hfree)
  · rw [h]
    exact hreset
  · rw [h]
    exact .refl w _

/-- **A handle is closed.** The induction is on the facades that are taken off. -/
theorem passes_close (handle : Statement) :
    ∀ w : World, Passes w {handle} (close handle w).1 {handle.afterClose} := by
  induction handle with
  | physical id =>
      intro w
      exact (w.passes_driver fun other =>
        (w.driver.known_closeStatement id other).mpr).beside {.physical id}
  | spent => exact fun w => .refl w _
  | facade key k inner ih =>
      intro w
      have hback := w.passes_takeBack key k inner
      have hspent : ∀ {v : World} {held : Multiset Statement}, Passes v held v {.spent} :=
        fun {v held} => (passes_lose (Multiset.zero_le held)).trans passes_spent
      obtain ⟨v, parked, hv⟩ : ∃ v parked, w.takeBack ⟨key, k, inner⟩ = (v, parked) := ⟨_, _, rfl⟩
      rw [hv] at hback
      have hpeel : Passes w {.facade key k inner} w {inner} := passes_exchange rfl
      unfold close
      rw [hv]
      cases parked with
      | true => exact (hpeel.trans hback).trans hspent
      | false => exact ((hpeel.trans hback).trans (ih v)).trans hspent

theorem passes_closed (w : World) (handle : Statement) : Passes w {handle} (close handle w).1 0 :=
  (passes_close handle w).trans (passes_lose (Multiset.zero_le _))

theorem passes_dropTracked (w : World) (tracked : Tracked) :
    Passes w {tracked.facade} (w.dropTracked tracked) 0 := by
  have hpeel : Passes w {tracked.facade} w {tracked.delegate} := passes_exchange rfl
  exact hpeel.trans (w.passes_closed tracked.delegate)

theorem passes_dropHandle (w : World) (handle : Statement) :
    Passes w {handle} (w.dropHandle handle) 0 := by
  cases handle with
  | physical id => exact passes_lose (Multiset.zero_le _)
  | spent => exact passes_lose (Multiset.zero_le _)
  | facade key k inner => exact w.passes_closed (.facade key k inner)

theorem passes_forceCloseFacade (w : World) (handle : Statement) :
    Passes w {handle} (w.forceCloseFacade handle).1 {.spent} := by
  have hclosed : Passes w {handle} (w.forceCloseFacade handle).1 0 := by
    cases handle with
    | physical id => exact passes_lose (Multiset.zero_le _)
    | spent => exact passes_lose (Multiset.zero_le _)
    | facade key k inner => exact w.passes_dropTracked ⟨key, k, inner⟩
  exact hclosed.trans passes_spent

/-! ## Caches -/

/-- The handles in the answer to a look-up. -/
def handlesFound : Except PoolError (Option Tracked) → Multiset Statement
  | .ok (some tracked) => {tracked.facade}
  | _ => 0

/-- The handles in the answer to a request for a facade. -/
def handlesWrapped : Except DriverError Statement → Multiset Statement
  | .ok handle => {handle}
  | .error _ => 0

theorem passes_fetch (w : World) (k : CacheId) (call : Call) :
    Passes w 0 (w.fetch k call).1 (handlesFound (w.fetch k call).2) := by
  obtain (h | ⟨error, h⟩) | ⟨_, ⟨c, _⟩, -, -, -, h⟩ |
    ⟨key, binding, tracked, -, -, hf, h⟩ := w.fetch_cases k call <;> rw [h]
  · exact .refl w 0
  · exact .refl w 0
  · exact w.passes_setStore c _ rfl
  · refine Passes.trans (w.passes_setStore binding.connection _ ?_)
      ((passes_releaseSlot _ _).beside {tracked.facade})
    rw [Multiset.singleton_add, zero_add]
    exact Store.facades_of_erase hf rfl

theorem passes_wrap (w : World) (k : CacheId) (tracked : Tracked) :
    Passes w {tracked.facade} (w.wrap k tracked).1 (handlesWrapped (w.wrap k tracked).2) := by
  rcases w.wrap_cases k tracked with h | ⟨due, h⟩ <;> rw [h]
  · exact .refl w _
  · have hfault : Passes w 0 { w with wrapFaults := due } 0 :=
      passes_of_parkedHandles rfl fun _ => id
    exact (hfault.beside {tracked.facade}).trans (passes_dropTracked _ tracked)

theorem passes_wrapPrepared (w : World) (k : CacheId) (handle : Statement) (call : Call) :
    Passes w {handle} (w.wrapPrepared k handle call).1
      (handlesWrapped (w.wrapPrepared k handle call).2) := by
  have htrack : Passes w {handle} w
      {(track k ((w.cache k).policy.keyFor call) handle).facade} := passes_exchange rfl
  exact htrack.trans (w.passes_wrap k _)

/-- A statement that is offered is parked, or refused and left with whoever offered it. -/
theorem passes_offer (w : World) (k : CacheId) (tracked : Tracked) :
    Passes w {tracked.facade} (w.offer k tracked).1
      ((w.offer k tracked).2.elim 0 fun _ => {tracked.facade}) := by
  unfold offer
  split
  · exact .refl w _
  · next binding _ =>
      obtain ⟨key, n, -, -, -, -, hfree, h⟩ | ⟨reason, h⟩ :=
        w.offerTo_cases (w.cache k).policy binding tracked
      · rw [h]
        exact w.passes_park _ tracked _ n hfree
      · rw [h]
        exact .refl w _

theorem passes_withdraw (w : World) (k : CacheId) (key : CacheKey) :
    Passes w 0 (w.withdraw k key).1
      ((w.withdraw k key).2.elim 0 fun tracked => {tracked.facade}) := by
  unfold withdraw
  split
  · exact .refl w 0
  · next binding _ =>
      simp only
      split
      · exact .refl w 0
      · next tracked hf =>
          refine Passes.trans (w.passes_setStore binding.connection _ ?_)
            ((passes_releaseSlot _ _).beside {tracked.facade})
          rw [Multiset.singleton_add, zero_add]
          exact Store.facades_of_erase hf rfl

theorem passes_startCounting (w : World) (p : PoolId) : Passes w 0 (w.startCounting p) 0 := by
  unfold startCounting
  split
  · exact .refl w 0
  · exact passes_of_parkedHandles rfl fun _ => id

theorem passes_provideStore (w : World) (c : ConnectionId) :
    Passes w 0 (w.provideStore c) 0 := by
  unfold provideStore
  split
  · exact .refl w 0
  · next hnone =>
      have hstore : w.store c = default := by rw [store, hnone]; rfl
      exact w.passes_setStore c _ (by rw [hstore]; rfl)

/-- The statements that were parked are closed one after the other. -/
theorem passes_discharge (counter : Option CounterId) (l : List Tracked) :
    ∀ w : World, Passes w (l.map Tracked.facade : List Statement)
      (l.foldl (discharge counter) w) 0 := by
  induction l with
  | nil => exact fun w => .refl w 0
  | cons tracked rest ih =>
      intro w
      have hfirst := ((w.passes_releaseSlot counter).beside {tracked.facade}).trans
        (passes_dropTracked _ tracked)
      have hframed := hfirst.frame (rest.map Tracked.facade : List Statement)
      rw [zero_add] at hframed
      exact hframed.trans (ih _)

/-- **A store is emptied for good.** What was parked is out for a moment. -/
theorem passes_empty (w : World) (c : ConnectionId) (counter : Option CounterId) :
    Passes w 0 ((w.store c).parked.foldl (discharge counter)
      (w.setStore c (w.store c).drained)) 0 := by
  have hout : Passes w 0 (w.setStore c (w.store c).drained) (w.store c).facades :=
    w.passes_setStore c _ (by rw [Store.facades_drained, add_zero, zero_add])
  rw [(w.store c).facades_eq] at hout
  exact hout.trans (passes_discharge _ _ _)

theorem passes_drain (w : World) (k : CacheId) (p : PoolId) (c : ConnectionId) :
    Passes w 0 (w.drain k p c) 0 := by
  unfold drain
  split
  · exact .refl w 0
  · next store hs =>
      have hstore : w.store c = store := by rw [World.store, hs]; rfl
      rw [← hstore]
      exact w.passes_empty c _

theorem passes_forget (w : World) (c : ConnectionId) : Passes w 0 (w.forget c) 0 := by
  rcases w.forget_cases c with hf | ⟨-, -, hf⟩ <;> rw [hf]
  · exact .refl w 0
  · exact w.passes_empty c none

theorem passes_rebind (w : World) (k : CacheId) (binding : Option Binding) :
    Passes w 0 (w.rebind k binding) 0 :=
  rebind_rule (P := fun v => Passes w 0 v 0) (passes_of_parkedHandles rfl fun _ => id)
    fun v c hv => hv.trans (v.passes_forget c)

theorem passes_attach (w : World) (k : CacheId) (p : PoolId) (c : ConnectionId) :
    Passes w 0 (w.attach k p c) 0 :=
  (w.passes_provideStore c).trans (passes_rebind _ k _)

end World

end ConnectionPool
