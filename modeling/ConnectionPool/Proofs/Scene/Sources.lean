import ConnectionPool.Proofs.Scene.Ownership

/-!
# Where handles come from

A facade was put before a statement by a cache of a chain, in answer to a call that the cache
passed on to the links behind it (`World.Source`), and what is behind the facade is such a handle
again (`World.Rooted`). A parked statement lies under the key of its facade, in the store of the
connection whose chain its cache is a link of (`World.Shelved`). A statement of the driver is the
answer to calls on one connection only. `Scene.Sourced` says this, and `Scene.Turn.sourced` that
every turn of a client without caches of its own keeps it.
-/

set_option autoImplicit false

namespace ConnectionPool

/-- The key of a call determines the call. -/
theorem CachePolicy.call_of_keyFor {policy : CachePolicy} {call : Call} {key : CacheKey}
    (h : policy.keyFor call = some key) : call = key.call := by
  rw [CachePolicy.keyFor] at h
  split at h
  · exact (CacheKey.ofCall?_eq_some_iff call key).mp h
  · exact nomatch h

namespace World

variable {w w' : World}

/-- **The source of a facade**: a call that prepares came to its cache, and the links behind the
cache answered the call with what is behind the facade. -/
structure Source (w : World) (c : ConnectionId) (position : Nat) (call : Call)
    (key : Option CacheKey) (k : CacheId) (inner : Statement) : Prop where
  link : (w.connection c).cacheAt? position = some k
  key : key = (w.cache k).policy.keyFor call
  prepares : call.method.prepares = true
  entered : w.Entered c position call
  answered : w.Answered c (position + 1) call inner

/-- **A handle is rooted**: every facade of it has a source. -/
def Rooted (w : World) : Statement → Prop
  | .facade key k inner =>
      (∃ c position call, w.Source c position call key k inner) ∧ w.Rooted inner
  | _ => True

/-- **A statement is shelved properly** under a key of the store of a connection. -/
structure Shelved (w : World) (c : ConnectionId) (key : CacheKey) (tracked : Tracked) : Prop where
  key : tracked.key = some key
  cache : tracked.cache ∈ (w.connection c).caches
  target : ∃ id, tracked.delegate.target? = some id
  rooted : w.Rooted tracked.facade

theorem known_of_cacheAt? {c : ConnectionId} {position : Nat} {k : CacheId}
    (h : (w.connection c).cacheAt? position = some k) : w.connections.Known c :=
  known_of_mem_caches ((Connection.mem_caches _ k).mpr ⟨position, h⟩)

theorem cacheAt?_of_link {c : ConnectionId} {position : Nat} {interceptor : Interceptor}
    {k : CacheId} (hl : (w.connection c).chain[position]? = some interceptor)
    (hk : interceptor.cache? = some k) : (w.connection c).cacheAt? position = some k := by
  rw [Connection.cacheAt?, hl]
  exact hk

section Wired

variable {lines : List PhysicalConnectionId} {own : List CacheId}

theorem Source.later {c : ConnectionId} {position : Nat} {call : Call} {key : Option CacheKey}
    {k : CacheId} {inner : Statement} (h : w.Source c position call key k inner)
    (hw : w.Wired lines own) (hl : w.Later w') : w'.Source c position call key k inner := by
  have hc := known_of_cacheAt? h.link
  have hk := hw.chain_known ((Connection.mem_caches _ k).mpr ⟨position, h.link⟩)
  exact
    { link := (Connection.cacheAt?_of_frame (hl.connections c hc).2 position).trans h.link
      key := by
        rw [(hl.caches k hk).2]
        exact h.key
      prepares := h.prepares
      entered := hl.entered h.entered
      answered := hl.answered hc h.answered }

theorem Rooted.later {handle : Statement} (h : w.Rooted handle) (hw : w.Wired lines own)
    (hl : w.Later w') : w'.Rooted handle := by
  induction handle with
  | physical id => trivial
  | spent => trivial
  | facade key k inner ih =>
      obtain ⟨⟨c, position, call, hsource⟩, hinner⟩ := h
      exact ⟨⟨c, position, call, hsource.later hw hl⟩, ih hinner⟩

theorem Shelved.later {c : ConnectionId} {key : CacheKey} {tracked : Tracked}
    (h : w.Shelved c key tracked) (hw : w.Wired lines own) (hl : w.Later w') :
    w'.Shelved c key tracked where
  key := h.key
  cache := by
    rw [Connection.caches_of_frame (hl.connections c (known_of_mem_caches h.cache)).2]
    exact h.cache
  target := h.target
  rooted := h.rooted.later hw hl

/-- What a facade reaches was obtained on the connection that its cache belongs to. -/
theorem Rooted.obtained {key : Option CacheKey} {k : CacheId} {inner : Statement}
    (h : w.Rooted (.facade key k inner)) (hw : w.Wired lines own) {c : ConnectionId}
    (hk : k ∈ (w.connection c).caches) {id : StatementId} (hid : inner.target? = some id) :
    w.Obtained c id := by
  obtain ⟨⟨d, position, call, hsource⟩, -⟩ := h
  have hd : k ∈ (w.connection d).caches := (Connection.mem_caches _ k).mpr ⟨position, hsource.link⟩
  obtain rfl := hw.apart hd hk
  exact ⟨position + 1, call, inner, hsource.prepares, hsource.answered, hid⟩

end Wired

end World

namespace Scene

variable {S S' : Scene}

/-- **Every handle has a source**, and every statement was obtained on one connection. -/
structure Sourced (S : Scene) : Prop where
  hands : ∀ handle ∈ S.hands, S.world.Rooted handle
  entries : ∀ {c key tracked}, (S.world.store c).entries.get? key = some tracked →
    S.world.Shelved c key tracked
  obtained : ∀ {c d id}, S.world.Obtained c id → S.world.Obtained d id → c = d

/-! ## What comes out, and what is parked -/

/-- **How a handle came to be out.** -/
inductive Got (S S' : Scene) (handle : Statement) : Prop
  | kept (h : handle ∈ S.hands)
  /-- It is no facade. -/
  | plain (h : ∀ key k inner, handle ≠ .facade key k inner)
  | peeled {key : Option CacheKey} {k : CacheId} (h : .facade key k handle ∈ S.hands)
  | filled {key : Option CacheKey} {k : CacheId} {inner : Statement} {c : ConnectionId}
      {position : Nat} {call : Call} (hh : handle = .facade key k inner) (h : inner ∈ S.hands)
      (hs : S'.world.Source c position call key k inner)
  | unparked {c : ConnectionId} {key : CacheKey} {tracked : Tracked}
      (hh : handle = tracked.facade)
      (h : (S.world.store c).entries.get? key = some tracked)

/-- **How a step brings handles out.** -/
theorem Step.got (h : Step S S') {handle : Statement} (hm : handle ∈ S'.hands) :
    Got S S' handle := by
  -- what is left of the hands when a handle is used up was there before
  have hrest : ∀ {used : Statement} {H : Multiset Statement}, S.hands = used ::ₘ H →
      handle ∈ H → handle ∈ S.hands := fun h hm => by
    rw [h]
    exact Multiset.mem_cons_of_mem hm
  have hused : ∀ {used : Statement} {H : Multiset Statement}, S.hands = used ::ₘ H →
      used ∈ S.hands := fun h => by
    rw [h]
    exact Multiset.mem_cons_self _ _
  cases h with
  | dispose h | lapse h | give h _ | park h _ _ _ _ _ _ => exact .kept (hrest h hm)
  | peel h =>
      rcases Multiset.mem_cons.mp hm with rfl | hm
      · exact .peeled (hused h)
      · exact .kept (hrest h hm)
  | spend | issue _ _ _ | answer _ _ _ _ =>
      rcases Multiset.mem_cons.mp hm with rfl | hm
      · exact .plain fun _ _ _ h => nomatch h
      · exact .kept hm
  | fill h hk hp he ha =>
      rcases Multiset.mem_cons.mp hm with rfl | hm
      · exact .filled rfl (hused h) ⟨hk, rfl, hp, he, ha⟩
      · exact .kept (hrest h hm)
  | hit _ _ _ _ _ hf | take _ hf _ _ =>
      rcases Multiset.mem_cons.mp hm with rfl | hm
      · exact .unparked rfl hf
      · exact .kept hm
  | drain _ _ =>
      rcases Multiset.mem_add.mp hm with hm | hm
      · obtain ⟨entry, he, rfl⟩ := Multiset.mem_map.mp hm
        exact .unparked rfl ((Table.mem_bag _ _ _).mp he)
      · exact .kept hm
  | _ => exact .kept hm

/-- A statement is parked in a store that was so before, or was out and is parked by a cache of
the connection, fit to be used again. -/
theorem Step.entry (h : Step S S') (hS : S.Wired) (hown : S.own = []) {c : ConnectionId}
    {key : CacheKey} {tracked : Tracked}
    (he : (S'.world.store c).entries.get? key = some tracked) :
    (S.world.store c).entries.get? key = some tracked
      ∨ (tracked.facade ∈ S.hands ∧ tracked.key = some key
        ∧ tracked.cache ∈ (S.world.connection c).caches
        ∧ ∃ id, tracked.delegate.target? = some id
          ∧ (S'.world.driver.statement id).Rested) := by
  -- a store with fewer entries, or the same ones
  have hfewer : ∀ {d : ConnectionId} {store : Store},
      (∀ key tracked, store.entries.get? key = some tracked →
        (S.world.store d).entries.get? key = some tracked) →
      ((S.world.setStore d store).store c).entries.get? key = some tracked →
      (S.world.store c).entries.get? key = some tracked := by
    intro d store hstore he
    rw [World.store_setStore] at he
    split at he
    · next hd =>
        rw [← hd.1]
        exact hstore key tracked he
    · exact he
  cases h with
  | book hw =>
      rw [hw.store c] at he
      exact Or.inl he
  | @hit _ _ _ _ binding key' _ _ _ _ hb _ hf =>
      obtain ⟨store, hstore⟩ : ∃ store,
        ((S.world.store binding.connection).remove key').recordHit = store := ⟨_, rfl⟩
      have he' : ((S.world.setStore binding.connection store).store c).entries.get? key
          = some tracked := by
        rw [← hstore]
        rcases binding with ⟨d, _ | n⟩ <;> exact he
      refine Or.inl (hfewer (fun q t hq => ?_) he')
      rw [← hstore] at hq
      exact Table.get?_of_erase _ hq
  | take _ hf hs _ =>
      refine Or.inl (hfewer (fun q t hq => ?_) he)
      rw [hs] at hq
      exact Table.get?_of_erase _ hq
  | tally d hs _ =>
      refine Or.inl (hfewer (fun q t hq => ?_) he)
      rwa [Table.get?_congr hs] at hq
  | drain _ _ =>
      refine Or.inl (hfewer (fun q t hq => ?_) he)
      change none = some t at hq
      cases hq
  | @repay n _ _ => cases n <;> exact Or.inl he
  | hangUp _ _ =>
      change ((S.world.updateConnection _ _).store c).entries.get? key = some tracked at he
      rw [World.store_setClosed] at he
      exact Or.inl he
  | @connect _ w chain metadata _ _ =>
      refine Or.inl ?_
      change ((((S.world.connections.register _).get c).store?).getD default).entries.get? key
        = some tracked at he
      rw [Registry.get_register] at he
      split at he
      · cases he
      · exact he
  | @park key' k inner id d n H h hb _ _ hf ht hr =>
      change (((S.world.updateCounter n _).setStore d _).store c).entries.get? key
        = some tracked at he
      rw [World.store_setStore] at he
      split at he
      · next hd =>
          obtain ⟨rfl, -⟩ := hd
          change ((S.world.store d).entries.insert key' ⟨some key', k, inner⟩).get? key
            = some tracked at he
          by_cases hkey : key' = key
          · subst hkey
            rw [Table.get?_insert_self] at he
            cases he
            refine Or.inr ⟨?_, rfl, ?_, id, ht, hr⟩
            · rw [h]
              exact Multiset.mem_cons_self _ _
            · refine (hS.bound hb).2.resolve_left ?_
              rw [hown]
              exact List.not_mem_nil
          · rw [Table.get?_insert_of_ne _ _ hkey] at he
            exact Or.inl he
      · exact Or.inl he
  | _ => exact Or.inl he

/-! ## What was obtained -/

/-- **A statement is new**, and only one connection had it as the answer to a call. -/
def New (S S' : Scene) (c : ConnectionId) (id : StatementId) : Prop :=
  ¬ S.world.driver.statements.Known id ∧ ∀ d, S'.world.Obtained d id → d = c

/-- A statement that leaves a link was obtained on the connection before, or it is new and made
for no call. -/
theorem Step.left_obtained (h : Step S S') (hS : S.Wired) (ht : S.Traced) (hs : Sourced S)
    {c : ConnectionId} {position : Nat} {call : Call} {handle : Statement} {id : StatementId}
    (hp : call.method.prepares = true) (hl : S'.world.Left c position call handle)
    (hid : handle.target? = some id) :
    S.world.Obtained c id
      ∨ (¬ S.world.driver.statements.Known id ∧ (S'.world.driver.statement id).origin = none
        ∧ ∀ {d q call' handle'}, S'.world.Left d q call' handle' → handle'.target? = some id →
          d = c) := by
  cases h.departs hl with
  | kept hl => exact Or.inl ⟨position, call, handle, hp, Or.inl hl, hid⟩
  | supplied hlink _ _ hh horigin hone =>
      rw [hh] at hid
      cases hid
      have hnew := S.world.driver.statements.not_known_next
      refine Or.inr ⟨hnew, horigin, fun {d q call' handle'} hl' hid' => ?_⟩
      rcases hone hl' with hl' | hd
      · exact absurd (ht.known_of_answered (Or.inl hl') hid') hnew
      · exact hd
  | @passed interceptor passed hlink _ hm _ ha =>
      exact Or.inl ⟨position + 1, passed, handle, hm ▸ hp, ha, hid⟩
  | covered hlink hk hmem _ hh _ =>
      rw [hh] at hid
      have hat := World.cacheAt?_of_link hlink hk
      exact Or.inl ((hs.hands _ hmem).obtained hS
        ((Connection.mem_caches _ _).mpr ⟨position, hat⟩) hid)
  | found hlink hk hb _ hf _ hh =>
      rw [hh] at hid
      -- the store is that of the connection on which the call is made
      have hat := World.cacheAt?_of_link hlink hk
      have hconn := hS.binding_connection ((Connection.mem_caches _ _).mpr ⟨position, hat⟩) hb
      have hshelved := hs.entries hf
      rw [← hconn]
      exact Or.inl (hshelved.rooted.obtained hS hshelved.cache hid)

/-- **A statement that was obtained on a connection** was so before, or it is new. -/
theorem Step.obtained (h : Step S S') (hS : S.Wired) (ht : S.Traced) (hs : Sourced S)
    {c : ConnectionId} {id : StatementId} (ho : S'.world.Obtained c id) :
    S.world.Obtained c id ∨ New S S' c id := by
  obtain ⟨hlater, hS'⟩ := h.later_and_wired hS
  have hknown : ∀ {d}, S.world.Obtained d id → S.world.driver.statements.Known id :=
    fun ⟨_, _, _, _, ha, hid⟩ => ht.known_of_answered ha hid
  obtain ⟨position, call, handle, hp, hl | ⟨hpos, id', rfl, horigin⟩, hid⟩ := ho
  · refine (h.left_obtained hS ht hs hp hl hid).imp_right fun ⟨hnew, hnone, hleft⟩ => ⟨hnew, ?_⟩
    rintro d ⟨q, call', handle', hp', hl' | ⟨-, id', rfl, horigin⟩, hid'⟩
    · exact hleft hl' hid'
    · cases hid'
      rw [hnone] at horigin
      exact nomatch horigin
  · cases hid
    have hline := hS'.origin_known horigin
    by_cases hk : S.world.driver.statements.Known id
    · -- the connection is known, since a new one has a line on which nothing was made
      left
      have horigin' := horigin
      rw [(hlater.statements id hk).2.1] at horigin'
      have hc : S.world.connections.Known c := by
        by_cases hc' : S'.world.connections.Known c
        · exact (h.known_connection hc').resolve_right fun h => h.line (hS.origin_known horigin')
        · rw [World.connection, Registry.get_of_not_known hc'] at hline
          exact absurd rfl hline.1
      have hf := (hlater.connections c hc).2
      rw [Connection.physical_of_frame hf] at horigin'
      rw [Connection.chain_of_frame hf] at hpos
      exact ⟨position, call, .physical id, hp, Or.inr ⟨hpos, id, rfl, horigin'⟩, rfl⟩
    · refine Or.inr ⟨hk, ?_⟩
      rintro d ⟨q, call', handle', hp', hl' | ⟨-, id', rfl, horigin'⟩, hid'⟩
      · rcases h.left_obtained hS ht hs hp' hl' hid' with hold | ⟨-, hnone, -⟩
        · exact absurd (hknown hold) hk
        · rw [hnone] at horigin
          exact nomatch horigin
      · cases hid'
        rw [horigin] at horigin'
        obtain ⟨hphysical, -⟩ := Prod.mk.inj (Option.some.inj horigin')
        have hc : ∀ {e}, S'.world.driver.connections.Known (S'.world.connection e).physical →
            S'.world.connections.Known e := by
          intro e he
          by_contra hne
          rw [World.connection, Registry.get_of_not_known hne] at he
          exact absurd rfl he.1
        exact hS'.physical_inj (hc (hphysical ▸ hline)) (hc hline) hphysical.symm

/-! ## Every turn keeps sources -/

theorem Step.sourced (h : Step S S') (hS : S.Wired) (ht : S.Traced) (hown : S.own = [])
    (hs : Sourced S) : Sourced S' := by
  obtain ⟨hlater, hS'⟩ := h.later_and_wired hS
  refine ⟨fun handle hm => ?_, fun {c key tracked} he => ?_, fun {c d id} hc hd => ?_⟩
  · cases h.got hm with
    | kept hm => exact (hs.hands handle hm).later hS hlater
    | plain hplain =>
        cases handle with
        | facade key k inner => exact absurd rfl (hplain key k inner)
        | physical id => trivial
        | spent => trivial
    | peeled hm => exact (hs.hands _ hm).2.later hS hlater
    | filled hh hm hsource =>
        rw [hh]
        exact ⟨⟨_, _, _, hsource⟩, (hs.hands _ hm).later hS hlater⟩
    | unparked hh he =>
        rw [hh]
        exact (hs.entries he).rooted.later hS hlater
  · rcases h.entry hS hown he with he | ⟨hm, hkey, hcache, id, htarget, -⟩
    · exact (hs.entries he).later hS hlater
    · exact World.Shelved.later ⟨hkey, hcache, ⟨id, htarget⟩, hs.hands _ hm⟩ hS hlater
  · rcases h.obtained hS ht hs hc with hc' | hnew
    · rcases h.obtained hS ht hs hd with hd' | hnew
      · exact hs.obtained hc' hd'
      · exact hnew.2 c hc
    · exact (hnew.2 d hd).symm

/-- **Every turn keeps sources**, where the client has no caches of its own. -/
theorem Turn.sourced (h : Turn S S') (hS : S.Wired) (ht : S.Traced) (hown : S.own = [])
    (hs : Sourced S) : Sourced S' := by
  have hlater := (h.later_and_wired hS).1
  -- what starts and closes pools leaves hands, stores and answers as they are
  have hkept : S'.hands = S.hands → (∀ c, S'.world.store c = S.world.store c) →
      (∀ c id, S'.world.Obtained c id → S.world.Obtained c id) → Sourced S' := by
    intro hhands hstores hobtained
    refine ⟨fun handle hm => ?_, fun {c key tracked} he => ?_, fun {c d id} hc hd => ?_⟩
    · rw [hhands] at hm
      exact (hs.hands handle hm).later hS hlater
    · rw [hstores c] at he
      exact (hs.entries he).later hS hlater
    · exact hs.obtained (hobtained c id hc) (hobtained d id hd)
  cases h with
  | step h => exact h.sourced hS ht hown hs
  | found _ => exact hkept rfl (fun _ => rfl) fun _ _ ho => ho
  | @count p _ hn _ =>
      rw [S.world.startCounting_of_none hn] at hkept ⊢
      exact hkept rfl (fun _ => rfl) fun _ _ ho => ho
  | close _ _ => exact hkept rfl (fun _ => rfl) fun _ _ ho => ho
  | uncount _ => exact hkept rfl (fun _ => rfl) fun _ _ ho => ho

end Scene

end ConnectionPool
