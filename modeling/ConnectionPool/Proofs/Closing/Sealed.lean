import ConnectionPool.Proofs.Scene.Handing
import ConnectionPool.Proofs.World.Signals

/-!
# Closing what no cache takes back

Closing a handle has one of two effects (`close_cases`): the driver closes the statement behind
it, and nothing outside the driver changes, or the cache of one of its facades parks what the
facade holds. What the driver does meanwhile is to use and to close statements, and it logs every
closing (`Driver.WindsDown`).

A handle is sealed when every cache of its facades that is attached at all is attached to a
store that was drained (`World.Sealed`). Closing a sealed handle parks nothing (`close_sealed`).
Draining a store closes what is parked there in this way, one handle after the other, provided
that the handles are sealed once the store is drained (`empties_drain`).
-/

set_option autoImplicit false

namespace ConnectionPool

/-! ## The driver -/

namespace Driver

/-- **The driver uses and closes statements**, and logs every closing. -/
structure WindsDown (d d' : Driver) : Prop where
  connections : d'.connections = d.connections
  closed : ∀ id, (d.statement id).closed = true → (d'.statement id).closed = true
  log : ∃ events : DriverLog, d'.log = d.log ++ events
    ∧ (∀ line, .connectionClosed line ∉ events)
    ∧ ∀ id, (d.statement id).closed = false → (d'.statement id).closed = true →
      .statementClosed id ∈ events

theorem WindsDown.refl (d : Driver) : d.WindsDown d where
  connections := rfl
  closed _ h := h
  log := ⟨[], (List.append_nil _).symm, fun _ => List.not_mem_nil,
    fun _ hopen hclosed => absurd (hopen.symm.trans hclosed) (by decide)⟩

theorem WindsDown.trans {d d' d'' : Driver} (h : d.WindsDown d') (h' : d'.WindsDown d'') :
    d.WindsDown d'' where
  connections := h'.connections.trans h.connections
  closed id hc := h'.closed id (h.closed id hc)
  log := by
    obtain ⟨events, hlog, hlines, hclosings⟩ := h.log
    obtain ⟨events', hlog', hlines', hclosings'⟩ := h'.log
    refine ⟨events ++ events', ?_, fun line hm => ?_, fun id hopen hclosed => ?_⟩
    · rw [hlog', hlog, List.append_assoc]
    · rcases List.mem_append.mp hm with hm | hm
      · exact hlines line hm
      · exact hlines' line hm
    · cases hmiddle : (d'.statement id).closed with
      | true => exact List.mem_append_left _ (hclosings id hopen hmiddle)
      | false => exact List.mem_append_right _ (hclosings' id hmiddle hclosed)

theorem windsDown_use (d : Driver) (usage : Usage) (id : StatementId) :
    d.WindsDown (d.use usage id) where
  connections := d.connections_use usage id
  closed other hc := (d.closed_use usage id other).trans hc
  log := by
    obtain ⟨-, -, events, hlog, hnone⟩ := d.serves_use usage id
    refine ⟨events, hlog, fun line hm => ?_, fun other hopen hclosed => ?_⟩
    · exact nomatch hnone _ hm
    · rw [d.closed_use usage id other, hopen] at hclosed
      exact nomatch hclosed

theorem windsDown_closeStatement (d : Driver) (id : StatementId) :
    d.WindsDown (d.closeStatement id).1 := by
  cases hopen : (d.statement id).closed with
  | true =>
      rw [d.closeStatement_of_closed hopen]
      exact .refl d
  | false =>
      refine ⟨d.connections_closeStatement id, fun other hc => ?_,
        [.statementClosed id], ?_, fun line hm => ?_, fun other hother hclosed => ?_⟩
      · rw [closed_closeStatement, hc, Bool.or_true]
      · rw [d.closeStatement_of_open hopen]
        rfl
      · rw [List.mem_singleton] at hm
        exact nomatch hm
      · rw [closed_closeStatement, hother, Bool.or_false, decide_eq_true_iff] at hclosed
        rw [hclosed]
        exact List.mem_singleton_self _

end Driver

/-! ## Closing a handle -/

/-- What the facades of a handle hold, outermost first. -/
def Statement.layers : Statement → List Tracked
  | .facade key k inner => ⟨key, k, inner⟩ :: inner.layers
  | _ => []

namespace World

variable {w w' : World} {handle : Statement} {layer : Tracked}

/-- **A handle is closed for good**: nothing but the driver is written to, which closes the
statement that the handle reaches. -/
structure ClosesOut (w w' : World) (handle : Statement) : Prop where
  driver : ∃ driver, w' = { w with driver } ∧ w.driver.WindsDown driver
  closed : ∀ id, handle.target? = some id → (w'.driver.statement id).closed = true

/-- **A layer of a handle is parked**, by its own cache and under its own key, where the key was
free and the limit not reached. Beside the driver, one counter and one store are written to. -/
structure ParksLayer (w w' : World) (layer : Tracked) : Prop where
  parked : ∃ driver key c n, layer.key = some key
    ∧ (w.cache layer.cache).binding = some ⟨c, some n⟩
    ∧ (w.counter n).count < (w.cache layer.cache).policy.limit
    ∧ (w.store c).closed = false ∧ (w.store c).entries.get? key = none
    ∧ w.driver.WindsDown driver
    ∧ w' = (({ w with driver } : World).updateCounter n fun _ =>
        ⟨(w.counter n).count + 1⟩).setStore c ((w.store c).park key layer)
  unclosed : ∃ id, layer.delegate.target? = some id ∧ (w'.driver.statement id).closed = false

/-- A reset winds the driver down, and has no other effect. -/
theorem reset_windsDown (w : World) (handle : Statement) :
    ∃ driver, (w.reset handle).1 = { w with driver } ∧ w.driver.WindsDown driver := by
  cases ht : handle.target? with
  | none =>
      rw [w.reset_of_spent ht]
      exact ⟨w.driver, rfl, .refl _⟩
  | some id =>
      rcases (w.reset_cases ht).1 with h | h | h
      · exact ⟨_, h, w.driver.windsDown_use _ id⟩
      · exact ⟨_, h, w.driver.windsDown_use _ id⟩
      · exact ⟨_, h, (w.driver.windsDown_use _ id).trans (Driver.windsDown_use _ _ id)⟩

/-- A statement is taken back by its cache and parked, or at most reset. -/
theorem takeBack_parks (w : World) (key : Option CacheKey) (k : CacheId) (inner : Statement) :
    (∃ w', w.takeBack ⟨key, k, inner⟩ = (w', true) ∧ w.ParksLayer w' ⟨key, k, inner⟩)
      ∨ ∃ driver, w.takeBack ⟨key, k, inner⟩ = ({ w with driver }, false)
        ∧ w.driver.WindsDown driver := by
  obtain ⟨driver, hreset, hwinds⟩ := w.reset_windsDown inner
  obtain ⟨key', id, c, n, w', rfl, hb, ht, hr, hn, hopen, hfree, hback⟩ | hback | hback :=
    w.takeBack_cases key k inner
  · have hrested := (w.reset_cases ht).2
    rw [hr] at hreset hrested
    obtain rfl : w' = _ := hreset
    exact Or.inl ⟨_, hback, ⟨driver, key', c, n, rfl, hb, hn, hopen, hfree, hwinds, rfl⟩, id, ht,
      (hrested rfl).1⟩
  · rw [hreset] at hback
    exact Or.inr ⟨driver, hback, hwinds⟩
  · exact Or.inr ⟨w.driver, hback, .refl _⟩

/-- What the driver did before makes no difference to where a layer is parked. -/
theorem ParksLayer.after {driver : Driver} (h : ({ w with driver } : World).ParksLayer w' layer)
    (hd : w.driver.WindsDown driver) : w.ParksLayer w' layer := by
  obtain ⟨⟨driver', key, c, n, hkey, hb, hn, hopen, hfree, hwinds, he⟩, hunclosed⟩ := h
  exact ⟨⟨driver', key, c, n, hkey, hb, hn, hopen, hfree, hd.trans hwinds, he⟩, hunclosed⟩

/-- **Closing a handle** closes it for good, or parks one of its layers. -/
theorem close_cases (handle : Statement) : ∀ w : World,
    w.ClosesOut (close handle w).1 handle
      ∨ ∃ layer ∈ handle.layers, w.ParksLayer (close handle w).1 layer := by
  induction handle with
  | physical id =>
      intro w
      refine Or.inl ⟨⟨_, rfl, w.driver.windsDown_closeStatement id⟩, fun other ht => ?_⟩
      obtain rfl := Option.some.inj ht
      show ((w.driver.closeStatement id).1.statement id).closed = true
      rw [Driver.closed_closeStatement, decide_eq_true rfl, Bool.true_or]
  | spent =>
      intro w
      exact Or.inl ⟨⟨w.driver, rfl, .refl _⟩, fun _ ht => nomatch ht⟩
  | facade key k inner ih =>
      intro w
      obtain ⟨w', hback, hparks⟩ | ⟨driver, hback, hwinds⟩ := w.takeBack_parks key k inner
      · rw [World.close, hback]
        exact Or.inr ⟨_, List.mem_cons_self, hparks⟩
      · -- the facade goes, and the handle behind it is closed
        rw [World.close, hback]
        rcases ih { w with driver } with ⟨⟨driver', he, hwinds'⟩, hclosed⟩ | ⟨layer, hm, hparks⟩
        · exact Or.inl ⟨⟨driver', he, hwinds.trans hwinds'⟩, hclosed⟩
        · exact Or.inr ⟨layer, List.mem_cons_of_mem _ hm, hparks.after hwinds⟩

/-! ## Sealed handles -/

/-- **A handle is sealed**: wherever the caches of its facades are attached, nothing can be
parked any more. -/
def Sealed (w : World) (handle : Statement) : Prop :=
  ∀ layer ∈ handle.layers, ∀ binding, (w.cache layer.cache).binding = some binding →
    (w.store binding.connection).closed = true

/-- A handle stays sealed as long as no cache is attached and no store opens again. -/
theorem Sealed.congr (h : w.Sealed handle) (hc : w'.caches = w.caches)
    (hs : ∀ c, (w.store c).closed = true → (w'.store c).closed = true) : w'.Sealed handle := by
  intro layer hm binding hb
  unfold cache at hb
  rw [hc] at hb
  exact hs _ (h layer hm binding hb)

/-- **Closing a sealed handle** closes it for good. -/
theorem close_sealed (h : w.Sealed handle) : w.ClosesOut (close handle w).1 handle := by
  rcases close_cases handle w with hcloses | ⟨layer, hm, hparks⟩
  · exact hcloses
  · -- the store that the cache of the layer is attached to would have to be open
    obtain ⟨driver, key, c, n, -, hb, -, hopen, -⟩ := hparks.parked
    have hclosed := h layer hm _ hb
    rw [hopen] at hclosed
    exact nomatch hclosed

/-! ## Draining -/

/-- **What is given back and closed in the course of a drain**: counters and the driver are
written to, and nothing else. -/
structure Discharges (w w' : World) : Prop where
  caches : w'.caches = w.caches
  connections : w'.connections = w.connections
  driver : w.driver.WindsDown w'.driver

theorem Discharges.refl (w : World) : Discharges w w := ⟨rfl, rfl, .refl _⟩

theorem Discharges.store (h : Discharges w w') (c : ConnectionId) : w'.store c = w.store c := by
  unfold World.store World.connection
  rw [h.connections]

theorem Discharges.trans {w w' w'' : World} (h : Discharges w w') (h' : Discharges w' w'') :
    Discharges w w'' :=
  ⟨h'.caches.trans h.caches, h'.connections.trans h.connections, h.driver.trans h'.driver⟩

/-- The slot of a sealed statement is given back, and the statement is closed. -/
theorem discharges_discharge (n : Option CounterId) {tracked : Tracked}
    (h : w.Sealed tracked.delegate) :
    Discharges w (discharge n w tracked)
      ∧ ∀ id, tracked.delegate.target? = some id →
        ((discharge n w tracked).driver.statement id).closed = true := by
  have hrelease : Discharges w (w.releaseSlot n) := by
    cases n with
    | none => exact .refl w
    | some m => exact ⟨rfl, rfl, .refl _⟩
  have hsealed : (w.releaseSlot n).Sealed tracked.delegate := by
    apply h.congr hrelease.caches
    intro c hc
    rwa [hrelease.store]
  obtain ⟨⟨driver, hclose, hwinds⟩, hclosed⟩ := close_sealed hsealed
  have hdrop : discharge n w tracked = { w.releaseSlot n with driver } := hclose
  refine ⟨?_, hclosed⟩
  rw [hdrop]
  exact hrelease.trans ⟨rfl, rfl, hwinds⟩

/-- **Sealed statements are discharged one after the other**, in whatever order, and all of them
are closed in the end. -/
theorem discharges_foldl (n : Option CounterId) (l : List Tracked) :
    ∀ {w : World}, (∀ tracked ∈ l, w.Sealed tracked.delegate) →
      Discharges w (l.foldl (discharge n) w)
        ∧ ∀ tracked ∈ l, ∀ id, tracked.delegate.target? = some id →
          ((l.foldl (discharge n) w).driver.statement id).closed = true := by
  induction l with
  | nil => exact fun _ => ⟨.refl _, fun _ h => absurd h List.not_mem_nil⟩
  | cons first rest ih =>
      intro w h
      obtain ⟨hfirst, hclosed⟩ := discharges_discharge n (h first List.mem_cons_self)
      have hsealed : ∀ tracked ∈ rest, (discharge n w first).Sealed tracked.delegate := by
        intro tracked hm
        apply (h tracked (List.mem_cons_of_mem _ hm)).congr hfirst.caches
        intro c hc
        rwa [hfirst.store]
      obtain ⟨hrest, hrestclosed⟩ := ih hsealed
      refine ⟨hfirst.trans hrest, fun tracked hm id ht => ?_⟩
      rcases List.mem_cons.mp hm with rfl | hm
      · exact hrest.driver.closed id (hclosed id ht)
      · exact hrestclosed tracked hm id ht

/-- **What happens to the stores and to the driver while a connection is being emptied**: other
stores stay as they are, and what was parked in the store is still there, or closed. -/
structure Empties (c : ConnectionId) (w w' : World) : Prop where
  others : ∀ d, c ≠ d → w'.store d = w.store d
  driver : w.driver.WindsDown w'.driver
  parked : ∀ {key tracked}, (w.store c).entries.get? key = some tracked →
    (w'.store c).entries.get? key = some tracked
      ∨ ∀ id, tracked.delegate.target? = some id → (w'.driver.statement id).closed = true

section Empties

variable {c : ConnectionId}

theorem Empties.trans {w w' w'' : World} (h : Empties c w w') (h' : Empties c w' w'') :
    Empties c w w'' where
  others d hd := (h'.others d hd).trans (h.others d hd)
  driver := h.driver.trans h'.driver
  parked := fun hget => by
    rcases h.parked hget with hget | hclosed
    · exact h'.parked hget
    · exact Or.inr fun id ht => h'.driver.closed id (hclosed id ht)

/-- Stores and the driver stay as they are. -/
theorem empties_same {w w' : World} (hs : ∀ d, w'.store d = w.store d)
    (hd : w'.driver = w.driver) : Empties c w w' where
  others d _ := hs d
  driver := by
    rw [hd]
    exact .refl _
  parked := fun hget => Or.inl (by rw [hs]; exact hget)

/-- **Draining a store** closes all that is parked there, if the handles are sealed as soon as the
store is closed. -/
theorem empties_drain (k : CacheId) (p : PoolId)
    (hsealed : ∀ {key tracked}, (w.store c).entries.get? key = some tracked →
      (w.setStore c (w.store c).drained).Sealed tracked.delegate) :
    Empties c w (w.drain k p c) := by
  unfold drain
  cases hstore : (w.connection c).store? with
  | none => exact empties_same (fun _ => rfl) rfl
  | some store =>
      obtain rfl : store = w.store c := by rw [World.store, hstore, Option.getD_some]
      -- what is parked is found under its key, and what is found is parked
      have hmem : ∀ {tracked}, tracked ∈ (w.store c).parked →
          ∃ key, (w.store c).entries.get? key = some tracked := by
        intro tracked hm
        obtain ⟨⟨key, t⟩, he, rfl⟩ := List.mem_map.mp hm
        exact ⟨key, (Table.mem_bag _ _ _).mp he⟩
      have hparked : ∀ {key tracked}, (w.store c).entries.get? key = some tracked →
          tracked ∈ (w.store c).parked := by
        intro key tracked hget
        exact List.mem_map.mpr ⟨⟨key, tracked⟩, (Table.mem_bag _ _ _).mpr hget, rfl⟩
      obtain ⟨hdischarges, hclosed⟩ := discharges_foldl (w.countedBy k p) (w.store c).parked
        (w := w.setStore c (w.store c).drained) fun tracked hm => by
          obtain ⟨key, hget⟩ := hmem hm
          exact hsealed hget
      refine ⟨fun d hd => ?_, hdischarges.driver, fun hget =>
        Or.inr (hclosed _ (hparked hget))⟩
      exact (hdischarges.store d).trans (w.store_setStore_of_ne hd _)

end Empties

end World

end ConnectionPool
