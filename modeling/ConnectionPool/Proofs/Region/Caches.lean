import ConnectionPool.Proofs.Calls.Tallying
import ConnectionPool.Proofs.Holding.Passing
import ConnectionPool.Proofs.Region.Basic

/-!
# What caches do within a region

Using and closing a handle of a region, and whatever a cache of a region does, is confined to the
region: the store and the counter that a cache is attached to lie in it, and so do the statements
that are parked there. A handle that comes out of a store of the region lies in the region
(`confined_fetch`, `confined_withdraw`).
-/

set_option autoImplicit false

namespace ConnectionPool

namespace Region

variable {R : Region} {w w' : World} {P Q : Prop}

/-- All of these handles lie in the region. -/
def Has (R : Region) (handles : Multiset Statement) : Prop := ∀ handle ∈ handles, R.Holds handle

@[simp] theorem has_zero (R : Region) : R.Has 0 :=
  fun _ h => absurd h (Multiset.notMem_zero _)

@[simp] theorem has_singleton (R : Region) (handle : Statement) :
    R.Has {handle} ↔ R.Holds handle := by
  simp [Has]

/-- The statement that a handle of the region reaches lies in the region. -/
theorem Holds.target {handle : Statement} {id : StatementId} (h : R.Holds handle)
    (ht : handle.target? = some id) : R.statements id := by
  induction handle with
  | physical id' =>
      cases ht
      exact h
  | facade key k inner ih => exact ih h.2 ht
  | spent => exact absurd ht (by simp [Statement.target?])

theorem Holds.afterClose {handle : Statement} (h : R.Holds handle) : R.Holds handle.afterClose := by
  cases handle with
  | physical id => exact h
  | facade key k inner => trivial
  | spent => trivial

/-! ## Statements -/

theorem confined_use (w : World) (usage : Usage) (id : StatementId) :
    R.Confined (R.statements id) w { w with driver := w.driver.use usage id } True :=
  confined_driver w (w.driver.touches_use usage id) fun h _ _ hid => hid ▸ h

theorem confined_onTarget {α : Type} (w : World) (handle : Statement)
    {action : StatementId → Driver → Driver × Except DriverError α} (usage : Usage)
    (h : ∀ id driver, (action id driver).1 = driver.use usage id) :
    R.Confined (R.Holds handle) w (w.onTarget handle action).1 True := by
  unfold World.onTarget
  split
  · exact .refl R _ w
  · next id ht =>
      have huse := (confined_use w usage id).given (T := R.Holds handle) fun hh _ => hh.target ht
      rw [← h id w.driver] at huse
      exact huse

theorem confined_closeResultSet (w : World) (handle : Statement) :
    R.Confined (R.Holds handle) w (w.closeResultSet handle).1 True := by
  unfold World.closeResultSet
  split
  · next id _ ht _ =>
      exact (confined_use w .closeResultSet id).given fun hh _ => hh.target ht
  · exact .refl R _ w

theorem confined_reset (w : World) (handle : Statement) :
    R.Confined (R.Holds handle) w (w.reset handle).1 True := by
  cases ht : handle.target? with
  | none =>
      rw [w.reset_of_spent ht]
      exact .refl R _ w
  | some id =>
      have huse : ∀ (v : World) (usage : Usage),
          R.Confined (R.statements id) v { v with driver := v.driver.use usage id } True :=
        fun v usage => confined_use v usage id
      refine Confined.given (P := R.statements id) ?_ fun hh _ => hh.target ht
      rcases (w.reset_cases ht).1 with h | h | h <;> rw [h]
      · exact huse w .clearParameters
      · exact huse w .closeResultSet
      · exact (huse w .closeResultSet).trans ((huse _ .clearParameters).given fun h _ => h.1)

/-- A statement is parked where a cache of the region is attached. -/
theorem confined_park (w : World) (c : ConnectionId) (n : CounterId) (change : Counter → Counter)
    (key : CacheKey) (tracked : Tracked) (hf : (w.store c).entries.get? key = none) :
    R.Confined (R.connections c ∧ R.counters n ∧ R.Holds tracked.facade) w
      ((w.updateCounter n change).setStore c ((w.store c).park key tracked)) True := by
  refine (confined_updateCounter w n change fun h _ => h.2.1).trans
    (confined_setStore _ c _ fun h hw => ⟨h.1.1, fun other hk => ?_, ?_⟩)
  · -- the key was free, and what is kept is there
    rw [Store.park, Table.get?_insert_of_ne]
    · rfl
    · rintro rfl
      have hthere := (hw.kept c key hk).2
      rw [show ((w.updateCounter n change).store c).entries.get? key = none from hf] at hthere
      exact absurd hthere (by decide)
  · intro other entry hk he
    rcases Table.get?_insert_eq_some _ he with rfl | he
    · exact h.1.2.2
    · exact hw.parked c other entry h.1.1 hk he

theorem confined_takeBack (w : World) (key : Option CacheKey) (k : CacheId) (inner : Statement) :
    R.Confined (R.caches k ∧ R.Holds inner) w (w.takeBack ⟨key, k, inner⟩).1 True := by
  have hreset := (confined_reset w inner).given (T := R.caches k ∧ R.Holds inner)
    fun h _ => h.2
  obtain ⟨key, id, c, n, v, rfl, hb, -, hr, -, -, hfree, h⟩ | h | h := w.takeBack_cases key k inner
  · rw [hr] at hreset
    rw [h]
    refine hreset.trans ((confined_park v c n _ key ⟨some key, k, inner⟩ hfree).given ?_)
    rintro ⟨hh, -⟩ hv
    have hbound := hv.bound k ⟨c, some n⟩ hh.1 (by rw [w.cache_reset hr]; exact hb)
    exact ⟨hbound.connection, (hbound.counter n rfl).1, hh⟩
  · rw [h]
    exact hreset
  · rw [h]
    exact .refl R _ w

/-- **A handle of the region is closed.** The induction is on the facades that are taken off. -/
theorem confined_close (handle : Statement) :
    ∀ w : World, R.Confined (R.Holds handle) w (World.close handle w).1 True := by
  induction handle with
  | physical id =>
      exact fun w => confined_driver w (w.driver.touches_closeStatement id)
        fun h _ _ hid => hid ▸ h
  | spent => exact fun w => .refl R _ w
  | facade key k inner ih =>
      intro w
      have hback : R.Confined (R.Holds (.facade key k inner)) w
        (w.takeBack ⟨key, k, inner⟩).1 True := confined_takeBack w key k inner
      obtain ⟨v, parked, hv⟩ : ∃ v parked, w.takeBack ⟨key, k, inner⟩ = (v, parked) := ⟨_, _, rfl⟩
      rw [hv] at hback
      unfold World.close
      rw [hv]
      cases parked with
      | true => exact hback
      | false => exact hback.trans ((ih v).given fun h _ => h.1.2)

theorem confined_closeTracked (w : World) (tracked : Tracked) :
    R.Confined (R.Holds tracked.facade) w (w.closeTracked tracked) True :=
  confined_close tracked.facade w

theorem confined_dropTracked (w : World) (tracked : Tracked) :
    R.Confined (R.Holds tracked.facade) w (w.dropTracked tracked) True :=
  (confined_close tracked.delegate w).given fun h _ => h.2

theorem confined_dropHandle (w : World) (handle : Statement) :
    R.Confined (R.Holds handle) w (w.dropHandle handle) True := by
  cases handle with
  | physical id => exact .refl R _ w
  | spent => exact .refl R _ w
  | facade key k inner => exact confined_close (.facade key k inner) w

theorem confined_forceCloseFacade (w : World) (handle : Statement) :
    R.Confined (R.Holds handle) w (w.forceCloseFacade handle).1 True := by
  cases handle with
  | physical id => exact .refl R _ w
  | spent => exact .refl R _ w
  | facade key k inner => exact confined_dropTracked w ⟨key, k, inner⟩

/-! ## Look-ups -/

/-- A cache does not find what is kept under the key of a call. -/
def Spurns (R : Region) (w : World) (k : CacheId) (call : Call) : Prop :=
  ∀ binding, (w.cache k).binding = some binding → ∀ key, R.kept binding.connection key →
    (w.cache k).policy.keyFor call ≠ some key

/-- A statement leaves the store that a cache of the region is attached to. -/
theorem confined_remove (w : World) {c : ConnectionId} {key : CacheKey} {tracked : Tracked}
    (store : Store) (hf : (w.store c).entries.get? key = some tracked)
    (hs : store.entries = (w.store c).entries.erase key) :
    R.Confined (R.connections c ∧ ¬ R.kept c key) w (w.setStore c store)
      (R.Holds tracked.facade) := by
  refine ((confined_setStore w c store fun h hw => ⟨h.1, fun other hk => ?_, ?_⟩).knows
    (fun h hw => hw.parked c key tracked h.1 h.2 hf)).gives fun _ hq => hq.1
  · rw [hs, Table.get?_erase, if_neg]
    rintro rfl
    exact h.2 hk
  · intro other entry hk he
    rw [hs] at he
    exact hw.parked c other entry h.1 hk (Table.get?_of_erase _ he)

theorem confined_tally (w : World) {c : ConnectionId} (store : Store)
    (hs : store.entries = (w.store c).entries) :
    R.Confined (R.connections c) w (w.setStore c store) True :=
  confined_setStore w c store fun hc hw => ⟨hc, fun _ _ => by rw [hs],
    fun key entry hk he => hw.parked c key entry hc hk (by rw [← hs]; exact he)⟩

/-- **A cache looks a call up.** What it finds lies in the region. -/
theorem confined_fetch (w : World) (k : CacheId) (call : Call) :
    R.Confined (R.caches k ∧ R.Spurns w k call) w (w.fetch k call).1
      (R.Has (World.handlesFound (w.fetch k call).2)) := by
  obtain (h | ⟨error, h⟩) | ⟨key, binding, -, hb, -, h⟩ |
    ⟨key, binding, tracked, hkey, hb, hf, h⟩ := w.fetch_cases k call <;> rw [h]
  · exact (Confined.refl R _ w).gives fun _ _ => R.has_zero
  · exact (Confined.refl R _ w).gives fun _ _ => R.has_zero
  · exact (confined_tally w (w.store binding.connection).recordMiss rfl).mono
      (fun h hw => (hw.bound k binding h.1 hb).connection) fun _ _ => R.has_zero
  · have hremoved := (confined_remove w ((w.store binding.connection).remove key).recordHit
      hf rfl).given (T := R.caches k ∧ R.Spurns w k call) fun h hw =>
        ⟨(hw.bound k binding h.1 hb).connection, fun hk => h.2 binding hb key hk hkey⟩
    refine (hremoved.and (confined_releaseSlot _ binding.counter fun h hv n hn => ?_)).gives
      fun _ hq => (R.has_singleton _).mpr hq.1
    exact ((hv.bound k binding h.1.1 hb).counter n hn).1

theorem confined_withdraw (w : World) (k : CacheId) (key : CacheKey) :
    R.Confined
      (R.caches k ∧ ∀ binding, (w.cache k).binding = some binding → ¬ R.kept binding.connection key)
      w (w.withdraw k key).1
      (R.Has ((w.withdraw k key).2.elim 0 fun tracked => {tracked.facade})) := by
  unfold World.withdraw
  split
  · exact (Confined.refl R _ w).gives fun _ _ => R.has_zero
  · next binding hb =>
      simp only
      split
      · exact (Confined.refl R _ w).gives fun _ _ => R.has_zero
      · next tracked hf =>
          have hremoved := (confined_remove w ((w.store binding.connection).remove key)
            hf rfl).given (T := R.caches k ∧ ∀ binding, (w.cache k).binding = some binding →
              ¬ R.kept binding.connection key) fun h hw =>
            ⟨(hw.bound k binding h.1 hb).connection, h.2 binding hb⟩
          refine (hremoved.and (confined_releaseSlot _ binding.counter fun h hv n hn => ?_)).gives
            fun _ hq => (R.has_singleton _).mpr hq.1
          exact ((hv.bound k binding h.1.1 hb).counter n hn).1

/-! ## Giving statements out and taking them in -/

theorem confined_wrapFaults (w : World) (due : Nat) :
    R.Confined P w { w with wrapFaults := due } True :=
  confined_of_stores { World.Grows.refl w with } ⟨fun _ => rfl, fun _ => rfl, fun _ => rfl⟩
    (fun _ => rfl) fun _ _ => { Spares.refl R w with }

theorem confined_wrap (w : World) (k : CacheId) (tracked : Tracked) :
    R.Confined (R.Holds tracked.facade) w (w.wrap k tracked).1
      (R.Has (World.handlesWrapped (w.wrap k tracked).2)) := by
  rcases w.wrap_cases k tracked with h | ⟨due, h⟩ <;> rw [h]
  · exact (Confined.refl R _ w).gives fun hh _ => (R.has_singleton _).mpr hh
  · exact ((confined_wrapFaults w due).trans
      ((confined_dropTracked _ tracked).given fun h _ => h.1)).gives fun _ _ => R.has_zero

theorem confined_wrapPrepared (w : World) (k : CacheId) (handle : Statement) (call : Call) :
    R.Confined (R.caches k ∧ R.Holds handle) w (w.wrapPrepared k handle call).1
      (R.Has (World.handlesWrapped (w.wrapPrepared k handle call).2)) :=
  confined_wrap w k (World.track k ((w.cache k).policy.keyFor call) handle)

theorem confined_offer (w : World) (k : CacheId) (tracked : Tracked) :
    R.Confined (R.caches k ∧ R.Holds tracked.facade) w (w.offer k tracked).1 True := by
  unfold World.offer
  split
  · exact .refl R _ w
  · next binding hb =>
      obtain ⟨key, n, -, hn, -, -, hfree, h⟩ | ⟨reason, h⟩ :=
        w.offerTo_cases (w.cache k).policy binding tracked <;> rw [h]
      · refine (confined_park w binding.connection n _ key tracked hfree).given fun h hw => ?_
        have hbound := hw.bound k binding h.1 hb
        exact ⟨hbound.connection, (hbound.counter n hn).1, h.2⟩
      · exact .refl R _ w

/-! ## Counters -/

theorem confined_startCounting (w : World) (p : PoolId) :
    R.Confined (R.pools p ∧ R.counters w.counters.next) w (w.startCounting p) True := by
  unfold World.startCounting
  split
  · exact .refl R _ w
  · have hnew : R.Confined (R.pools p ∧ R.counters w.counters.next) w
        { w with counters := w.counters.register {} } True :=
      confined_of_stores
        { World.Grows.refl w with counters := by simp }
        ⟨fun _ => rfl, fun _ => rfl, fun _ => rfl⟩ (fun _ => rfl) fun h _ => { Spares.refl R w with
          counter := fun n hn => by
            show (w.counters.register {}).get n = w.counters.get n
            rw [Registry.get_register, if_neg]
            rintro rfl
            exact hn h.2 }
    refine hnew.trans (confined_updatePool _ p _ fun h _ => ⟨h.1.1, fun n hn => ?_⟩)
    obtain rfl : w.counters.next = n := by simpa [Pool.counter?] using hn
    exact ⟨h.1.2, by simp [Registry.Known, Registry.next]⟩

theorem confined_stopCounting (w : World) (p : PoolId) :
    R.Confined (R.pools p) w (w.stopCounting p) True :=
  confined_updatePool w p _ fun hp _ => ⟨hp, fun n hn => by
    simp [Pool.counter?, Attributes.get?_erase] at hn⟩

/-! ## Emptying stores -/

theorem confined_discharge (counter : Option CounterId) (tracked : Tracked) (w : World) :
    R.Confined ((∀ n, counter = some n → R.counters n) ∧ R.Holds tracked.facade) w
      (World.discharge counter w tracked) True :=
  (confined_releaseSlot w counter fun h _ => h.1).trans
    ((confined_dropTracked _ tracked).given fun h _ => h.1.2)

theorem confined_dischargeAll (counter : Option CounterId) (l : List Tracked) :
    ∀ w : World, R.Confined ((∀ n, counter = some n → R.counters n)
        ∧ ∀ tracked ∈ l, R.Holds tracked.facade) w (l.foldl (World.discharge counter) w) True := by
  induction l with
  | nil => exact fun w => .refl R _ w
  | cons tracked rest ih =>
      intro w
      refine ((confined_discharge counter tracked w).given fun h _ =>
        ⟨h.1, h.2 tracked List.mem_cons_self⟩).trans ((ih _).given fun h _ => ?_)
      exact ⟨h.1.1, fun entry he => h.1.2 entry (List.mem_cons_of_mem _ he)⟩

/-- **The store of a connection of the region is emptied for good.** Nothing of it is kept. -/
theorem confined_empty (w : World) (c : ConnectionId) (counter : Option CounterId) :
    R.Confined (R.connections c ∧ (∀ key, ¬ R.kept c key) ∧ ∀ n, counter = some n → R.counters n) w
      ((w.store c).parked.foldl (World.discharge counter) (w.setStore c (w.store c).drained))
      True := by
  refine Confined.trans (Q := (∀ n, counter = some n → R.counters n)
    ∧ ∀ tracked ∈ (w.store c).parked, R.Holds tracked.facade) ?_
    ((confined_dischargeAll _ _ _).given fun h _ => h.2)
  refine ((confined_setStore w c (w.store c).drained fun h _ => ⟨h.1,
    fun key hkey => absurd hkey (h.2.1 key), fun key tracked _ hf => ?_⟩).knows
    fun h hw => ⟨h.2.2, fun tracked ht => ?_⟩).gives fun _ hq => hq.1
  · cases hf
  · obtain ⟨⟨key, entry⟩, hentry, rfl⟩ := List.mem_map.mp ht
    exact hw.parked c key entry h.1 (h.2.1 key)
      ((Table.mem_bag _ _ _).mp (Multiset.mem_coe.mpr hentry))

theorem confined_drain (w : World) (k : CacheId) (p : PoolId) (c : ConnectionId) :
    R.Confined (R.caches k ∧ R.pools p ∧ R.connections c ∧ ∀ key, ¬ R.kept c key) w
      (w.drain k p c) True := by
  unfold World.drain
  split
  · exact .refl R _ w
  · next store hs =>
      have hstore : w.store c = store := by rw [World.store, hs]; rfl
      rw [← hstore]
      refine (confined_empty w c _).given fun h hw => ⟨h.2.2.1, h.2.2.2, fun n hn => ?_⟩
      rw [World.countedBy, Option.or_eq_some_iff] at hn
      rcases hn with hn | ⟨-, hn⟩
      · obtain ⟨binding, hb, hcounter⟩ := Option.bind_eq_some_iff.mp hn
        exact ((hw.bound k binding h.1 hb).counter n hcounter).1
      · exact (hw.counted p n h.2.1 hn).1

/-- The store is held, if anything of it is kept. -/
def Secures (R : Region) (c : ConnectionId) (w : World) : Prop :=
  ∀ key, R.kept c key → w.isHeld c = true

/-- **A connection of the region is forgotten.** What is kept stays where somebody holds it. -/
theorem confined_forget (w : World) (c : ConnectionId) :
    R.Confined (R.connections c ∧ R.Secures c (w.forget c)) w (w.forget c) True := by
  rcases w.forget_cases c with hf | ⟨hheld, -, hf⟩
  · rw [hf]
    exact .refl R _ w
  · have hempty := (confined_empty (R := R) w c none).given
      (T := R.connections c ∧ R.Secures c (w.forget c)) fun h _ =>
        ⟨h.1, fun key hkey => ?_, by rintro _ ⟨⟩⟩
    · rw [World.discharge_none, ← hf] at hempty
      exact hempty
    · have hstill := h.2 key hkey
      rw [World.isHeld_forget, hheld] at hstill
      cases hstill

/-! ## Attaching caches -/

theorem confined_provideStore (w : World) (c : ConnectionId) :
    R.Confined (R.connections c) w (w.provideStore c) True := by
  unfold World.provideStore
  split
  · exact .refl R _ w
  · next hnone =>
      have hstore : w.store c = default := by rw [World.store, hnone]; rfl
      exact confined_tally w _ (by rw [hstore]; rfl)

/-- **A cache of the region is attached to something else**, and what it was attached to is
forgotten. -/
theorem confined_rebind (w : World) (k : CacheId) (binding : Option Binding)
    (h : P → R.Closed w → R.caches k ∧ ∀ b, binding = some b → R.Allows w b
      ∧ ∀ c, R.connections c → k ∈ (w.connection c).caches → b.connection = c)
    (hs : P → R.Closed w → ∀ earlier, (w.cache k).binding = some earlier →
      R.Secures earlier.connection (w.rebind k binding)) :
    R.Confined P w (w.rebind k binding) True := by
  have hbind := confined_bind (R := R) (P := P) w k binding h
  rcases w.rebind_cases k binding with hr | ⟨earlier, he, hr⟩
  · rw [hr]
    exact hbind
  · rw [hr] at hs ⊢
    refine (hbind.knows fun hp hw => ?_).trans ((confined_forget _ _).given fun hq _ => hq.2.1)
    exact ⟨(hw.bound k earlier (h hp hw).1 he).connection, hs hp hw earlier he⟩

/-- **A cache of the region is attached** to a connection of the region, which is the only one of
the region that has the cache in its chain, if there is one. -/
theorem confined_attach (w : World) (k : CacheId) (p : PoolId) (c : ConnectionId) :
    R.Confined ((R.caches k ∧ R.pools p ∧ R.connections c ∧ w.connections.Known c
        ∧ ∀ d, R.connections d → k ∈ (w.connection d).caches → c = d)
        ∧ ∀ earlier, (w.cache k).binding = some earlier →
          R.Secures earlier.connection (w.attach k p c)) w
      (w.attach k p c) True := by
  obtain ⟨v, hv⟩ : ∃ v, w.provideStore c = v := ⟨_, rfl⟩
  have hprovided := confined_provideStore (R := R) w c
  have hpool : ∀ q, v.pool q = w.pool q := by
    intro q
    rw [← hv]
    unfold World.provideStore
    split <;> rfl
  have hframe : ∀ d, (v.connection d).frame = (w.connection d).frame := by
    intro d
    rw [← hv]
    unfold World.provideStore
    split
    · rfl
    · exact w.frame_setStore c {} d
  have hcache : v.cache k = w.cache k := by
    rw [← hv]
    unfold World.provideStore
    split <;> rfl
  unfold World.attach
  rw [hv] at hprovided ⊢
  refine (hprovided.given fun h _ => h.1.2.2.1).trans
    (confined_rebind v k (some { connection := c, counter := (w.pool p).counter? }) ?_
      fun h _ earlier he => h.1.2 earlier (hcache ▸ he))
  rintro ⟨⟨⟨hk, hp, hc, hknown, honly⟩, -⟩, -⟩ hclosed
  refine ⟨hk, ?_⟩
  rintro binding ⟨⟩
  refine ⟨⟨hc, hknown.mono hprovided.grows.connections, fun n hn => ?_⟩, fun d hd hkd => ?_⟩
  · rw [← hpool] at hn
    exact hclosed.counted p n hp hn
  · rw [Connection.caches_of_frame (hframe d)] at hkd
    exact honly d hd hkd

theorem confined_detach (w : World) (k : CacheId) :
    R.Confined (R.caches k ∧ ∀ earlier, (w.cache k).binding = some earlier →
      R.Secures earlier.connection (w.detach k)) w (w.detach k) True :=
  confined_rebind w k none (fun h _ => ⟨h.1, by rintro _ ⟨⟩⟩) fun h _ => h.2

end Region

end ConnectionPool
