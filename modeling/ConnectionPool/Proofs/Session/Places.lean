import ConnectionPool.Proofs.Session.Sound

/-!
# Where a statement is

A statement that a cache has put a facade before is held by a client under one name, or parked
under one key of one store, or closed; and of these just one at a time. A handle that was
closed has no effect any more, whatever becomes of the statement that it once reached.
-/

set_option autoImplicit false

namespace ConnectionPool

/-! ## Counting in bags -/

section Bags

variable {α β : Type} [DecidableEq β] {f : α → Option β} {m : Multiset α} {b : β}

theorem count_filterMap (f : α → Option β) (m : Multiset α) (b : β) :
    (m.filterMap f).count b = (m.filter fun a => f a = some b).card := by
  induction m using Multiset.induction_on with
  | empty => rfl
  | cons a m ih =>
      cases h : f a with
      | none =>
          rw [Multiset.filterMap_cons_none _ _ h, ih, Multiset.filter_cons_of_neg]
          rw [h]
          exact fun h => nomatch h
      | some b' =>
          rw [Multiset.filterMap_cons_some _ _ _ h]
          by_cases hb : b = b'
          · subst hb
            rw [Multiset.count_cons_self, ih,
              Multiset.filter_cons_of_pos (p := fun a => f a = some b) _ h, Multiset.card_cons]
          · rw [Multiset.count_cons_of_ne hb, ih, Multiset.filter_cons_of_neg]
            rw [h]
            exact fun h => hb (Option.some.inj h).symm

/-- What comes once of a bag comes of one element. -/
theorem unique_of_count_eq_one (h : (m.filterMap f).count b = 1) :
    ∃ a ∈ m, f a = some b ∧ ∀ a' ∈ m, f a' = some b → a' = a := by
  rw [count_filterMap, Multiset.card_eq_one] at h
  obtain ⟨a, ha⟩ := h
  have hmem : ∀ a', a' ∈ m ∧ f a' = some b ↔ a' = a := fun a' => by
    rw [← Multiset.mem_filter (p := fun a => f a = some b), ha, Multiset.mem_singleton]
  have haa := (hmem a).mpr rfl
  exact ⟨a, haa.1, haa.2, fun a' hm hf => (hmem a').mp ⟨hm, hf⟩⟩

theorem eq_of_count_le_one (h : (m.filterMap f).count b ≤ 1) {a a' : α} (ha : a ∈ m)
    (hf : f a = some b) (ha' : a' ∈ m) (hf' : f a' = some b) : a = a' := by
  have hpos := Multiset.count_pos.mpr ((Multiset.mem_filterMap f m).mpr ⟨a, ha, hf⟩)
  obtain ⟨_, _, _, huniq⟩ := unique_of_count_eq_one (Nat.le_antisymm h hpos)
  exact (huniq a ha hf).trans (huniq a' ha' hf').symm

end Bags

namespace World

variable {w : World}

/-- Everything that is parked, with the place where it is. -/
def places (w : World) : Multiset (ConnectionId × ((_ : CacheKey) × Tracked)) :=
  w.total fun c store => store.entries.bag.map (Prod.mk c)

/-- A statement is parked under a key of the store of a connection. -/
def Parks (w : World) (c : ConnectionId) (key : CacheKey) (id : StatementId) : Prop :=
  ∃ tracked, (w.store c).entries.get? key = some tracked ∧ tracked.delegate.target? = some id

theorem mem_places {c : ConnectionId} {key : CacheKey} {tracked : Tracked} :
    (c, ⟨key, tracked⟩) ∈ w.places ↔ (w.store c).entries.get? key = some tracked := by
  rw [places, total, Multiset.mem_sum, ← Table.mem_bag]
  constructor
  · rintro ⟨d, -, h⟩
    obtain ⟨entry, he, h⟩ := Multiset.mem_map.mp h
    cases h
    exact he
  · intro h
    have hc : w.connections.Known c := by
      by_contra hc
      rw [w.store_of_not_known hc] at h
      exact absurd h (Multiset.notMem_zero _)
    exact ⟨c, (w.mem_everyConnection c).mpr hc, Multiset.mem_map.mpr ⟨_, h, rfl⟩⟩

theorem parkedHandles_eq_map (w : World) :
    w.parkedHandles = w.places.map fun place => place.2.2.facade := by
  rw [parkedHandles, total, places, total, ← Multiset.coe_mapAddMonoidHom, map_sum]
  refine Finset.sum_congr rfl fun c _ => ?_
  rw [Multiset.coe_mapAddMonoidHom, Multiset.map_map]
  rfl

end World

theorem Scene.Traced.known_of_wrapped {S : Scene} (ht : S.Traced) {id : StatementId}
    (h : S.world.Wrapped id) : S.world.driver.statements.Known id := by
  obtain ⟨_, _, _, _, _, -, -, ha, hid⟩ := h
  exact ht.known_of_answered ha hid

namespace Session

variable {s : Session} {S : Scene}

/-! ## Exclusive ownership -/

/-- A client holds, under a name, a handle that reaches a statement. -/
def Holds (s : Session) (name : Name) (id : StatementId) : Prop :=
  ∃ held, s.statements.get? name = some held ∧ held.statement.target? = some id

/-- **A statement is in exactly one place**: in the hands of a client under one name, or parked
under one key of one store, or closed, which happened once. -/
inductive Placed (s : Session) (id : StatementId) : Prop
  | held (hopen : (s.world.driver.statement id).closed = false)
      (hlog : s.world.driver.log.closings.count id = 0)
      (hheld : ∃! name, s.Holds name id) (hparked : ∀ c key, ¬ s.world.Parks c key id)
  | parked (hopen : (s.world.driver.statement id).closed = false)
      (hlog : s.world.driver.log.closings.count id = 0)
      (hheld : ∀ name, ¬ s.Holds name id)
      (hparked : ∃! place : ConnectionId × CacheKey, s.world.Parks place.1 place.2 id)
  | closed (hclosed : (s.world.driver.statement id).closed = true)
      (hlog : s.world.driver.log.closings.count id = 1)
      (hheld : ∀ name, ¬ s.Holds name id) (hparked : ∀ c key, ¬ s.world.Parks c key id)

/-- The statement that a named handle reaches. -/
def reach (entry : (_ : Name) × Held) : Option StatementId := entry.2.statement.target?

/-- The statement that is parked in a place. -/
def reachParked (place : ConnectionId × ((_ : CacheKey) × Tracked)) : Option StatementId :=
  place.2.2.facade.target?

theorem filterMap_target?_eq (H : Multiset Statement) :
    H.filterMap Statement.target? = (covered H).filterMap Statement.target? + bares H := by
  induction H using Multiset.induction_on with
  | empty => rfl
  | cons handle H ih =>
      cases hb : handle.bare? with
      | some id =>
          rw [handle.eq_physical_of_bare? hb, covered_physical, bares_physical,
            Multiset.filterMap_cons_some Statement.target? _ _ rfl, ih, Multiset.add_cons]
      | none =>
          rw [covered_cons hb, bares_cons hb]
          cases ht : handle.target? with
          | none =>
              rw [Multiset.filterMap_cons_none _ _ ht, Multiset.filterMap_cons_none _ _ ht, ih]
          | some id =>
              rw [Multiset.filterMap_cons_some _ _ _ ht, Multiset.filterMap_cons_some _ _ _ ht,
                ih, Multiset.cons_add]

theorem Keeps.chest (h : Keeps s S) : s.chest = 0 := by
  rw [Session.chest, h.tracked]
  rfl

/-- What a client holds and what is parked are the statements that a scene accounts for, but
for the bare ones that the client has let go of. -/
theorem Keeps.count (h : Keeps s S) (id : StatementId) :
    (s.statements.bag.filterMap reach).count id + (s.world.places.filterMap reachParked).count id
        + S.loose.count id
      = S.targets.count id + S.loose.count id + (bares s.pockets).count id := by
  have hpockets : s.statements.bag.filterMap reach = s.pockets.filterMap Statement.target? := by
    rw [pockets, Multiset.filterMap_map]
    rfl
  have hplaces : s.world.places.filterMap reachParked
      = s.world.parkedHandles.filterMap Statement.target? := by
    rw [World.parkedHandles_eq_map, Multiset.filterMap_map]
    rfl
  rw [Scene.targets, Scene.handles, h.depicts.hands, h.chest, h.depicts.world, add_zero,
    Multiset.filterMap_add, hpockets, hplaces, filterMap_target?_eq, Multiset.count_add,
    Multiset.count_add]
  omega

theorem Keeps.count_bares_le (h : Keeps s S) (id : StatementId) :
    (bares s.pockets).count id ≤ S.loose.count id :=
  Multiset.count_le_of_le id h.depicts.bare

theorem holds_iff {name : Name} {id : StatementId} :
    s.Holds name id ↔ ∃ held, ⟨name, held⟩ ∈ s.statements.bag ∧ reach ⟨name, held⟩ = some id := by
  simp only [Holds, Table.mem_bag, reach]

theorem parks_iff {c : ConnectionId} {key : CacheKey} {id : StatementId} :
    s.world.Parks c key id
      ↔ ∃ tracked, (c, ⟨key, tracked⟩) ∈ s.world.places
        ∧ reachParked (c, ⟨key, tracked⟩) = some id := by
  simp only [World.Parks, World.mem_places, reachParked]
  rfl

theorem not_holds_of_count {id : StatementId}
    (h : (s.statements.bag.filterMap reach).count id = 0) (name : Name) : ¬ s.Holds name id := by
  rw [holds_iff]
  rintro ⟨held, hm, hr⟩
  exact Multiset.count_eq_zero.mp h ((Multiset.mem_filterMap _ _).mpr ⟨_, hm, hr⟩)

theorem not_parks_of_count {id : StatementId}
    (h : (s.world.places.filterMap reachParked).count id = 0) (c : ConnectionId) (key : CacheKey) :
    ¬ s.world.Parks c key id := by
  rw [parks_iff]
  rintro ⟨tracked, hm, hr⟩
  exact Multiset.count_eq_zero.mp h ((Multiset.mem_filterMap _ _).mpr ⟨_, hm, hr⟩)

theorem existsUnique_holds {id : StatementId}
    (h : (s.statements.bag.filterMap reach).count id = 1) : ∃! name, s.Holds name id := by
  obtain ⟨⟨name, held⟩, hm, hr, huniq⟩ := unique_of_count_eq_one h
  refine ⟨name, holds_iff.mpr ⟨held, hm, hr⟩, fun name' h' => ?_⟩
  obtain ⟨held', hm', hr'⟩ := holds_iff.mp h'
  exact congrArg Sigma.fst (huniq _ hm' hr')

theorem existsUnique_parks {id : StatementId}
    (h : (s.world.places.filterMap reachParked).count id = 1) :
    ∃! place : ConnectionId × CacheKey, s.world.Parks place.1 place.2 id := by
  obtain ⟨⟨c, key, tracked⟩, hm, hr, huniq⟩ := unique_of_count_eq_one h
  refine ⟨(c, key), parks_iff.mpr ⟨tracked, hm, hr⟩, ?_⟩
  rintro ⟨c', key'⟩ h'
  obtain ⟨tracked', hm', hr'⟩ := parks_iff.mp h'
  have he := huniq _ hm' hr'
  exact congrArg (fun place => (place.1, place.2.1)) he

/-- **A statement that came to a cache is in exactly one place.** -/
theorem Keeps.placed (h : Keeps s S) {id : StatementId} (hw : s.world.Wrapped id) :
    s.Placed id := by
  rw [← h.depicts.world] at hw
  have hcount := h.count id
  have hloose : S.loose.count id = 0 :=
    Multiset.count_eq_zero.mpr fun hid => h.sound.owned.apart id hid hw
  have hbares := h.count_bares_le id
  have hknown := h.sound.traced.known_of_wrapped hw
  obtain ⟨hopened, hclosed, hlog⟩ := h.sound.owned.each id
  rw [h.depicts.world] at hopened hclosed hlog hknown
  cases hc : (s.world.driver.statement id).closed with
  | true =>
      have hzero := (hclosed hc).1
      rw [if_pos ⟨hknown, hc⟩] at hlog
      exact .closed hc hlog (not_holds_of_count (by omega)) (not_parks_of_count (by omega))
  | false =>
      have hone := hopened hc
      rw [if_neg fun h => by rw [hc] at h; exact nomatch h.2] at hlog
      by_cases hheld : (s.statements.bag.filterMap reach).count id = 1
      · exact .held hc hlog (existsUnique_holds hheld) (not_parks_of_count (by omega))
      · exact .parked hc hlog (not_holds_of_count (by omega)) (existsUnique_parks (by omega))

/-- **No two names stand for one statement.** -/
theorem Keeps.holds_unique (h : Keeps s S) {name name' : Name} {id : StatementId}
    (hn : s.Holds name id) (hn' : s.Holds name' id) : name = name' := by
  have hcount := h.count id
  have hbares := h.count_bares_le id
  have hle : S.targets.count id + S.loose.count id ≤ 1 := by
    obtain ⟨hopened, hclosed, -⟩ := h.sound.owned.each id
    cases hc : (S.world.driver.statement id).closed with
    | true => have := hclosed hc; omega
    | false => exact (hopened hc).le
  obtain ⟨held, hm, hr⟩ := holds_iff.mp hn
  obtain ⟨held', hm', hr'⟩ := holds_iff.mp hn'
  exact congrArg Sigma.fst (eq_of_count_le_one (by omega) hm hr hm' hr')

end Session

end ConnectionPool
