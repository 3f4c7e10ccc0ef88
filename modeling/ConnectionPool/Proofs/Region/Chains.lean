import ConnectionPool.Proofs.Holding.Travels
import ConnectionPool.Proofs.Region.Caches

/-!
# Calls and hooks within a region

A call on a connection of a region is confined to the region, and what it is answered with lies in
the region (`confined_perform`). Its interceptors are told of hooks within the region as well
(`confined_tellChain`). What is noted on the way is what tells a caching link of a kept entry: a
link is not asked for it, and nobody is told that its connection is disconnected.
-/

set_option autoImplicit false

namespace ConnectionPool

namespace World

/-- These interceptors are links of the chain of a connection. -/
def Links (w : World) (c : ConnectionId) (interceptors : List Interceptor) : Prop :=
  ∀ interceptor ∈ interceptors, interceptor ∈ (w.connection c).chain

theorem links_chain (w : World) (c : ConnectionId) : w.Links c (w.connection c).chain :=
  fun _ h => h

theorem Links.grows {w w' : World} {c : ConnectionId} {interceptors : List Interceptor}
    (h : w.Links c interceptors) (hg : w.Grows w') : w'.Links c interceptors := by
  intro interceptor hi
  rw [hg.chain (h interceptor hi)]
  exact h interceptor hi

theorem Links.tail {w : World} {c : ConnectionId} {interceptor : Interceptor}
    {rest : List Interceptor} (h : w.Links c (interceptor :: rest)) : w.Links c rest :=
  fun i hi => h i (List.mem_cons_of_mem _ hi)

/-- The cache of a link is one of the caches of the chain. -/
theorem Links.cache {w : World} {c : ConnectionId} {interceptor : Interceptor}
    {rest : List Interceptor} (h : w.Links c (interceptor :: rest)) {k : CacheId}
    (hk : interceptor.role = .cache k) : k ∈ (w.connection c).caches :=
  List.mem_filterMap.mpr ⟨interceptor, h interceptor List.mem_cons_self, by
    rw [Interceptor.cache?, hk]⟩

end World

namespace Region

variable {R : Region} {w w' : World} {P : Prop} {c : ConnectionId}

/-- A link of a connection is not asked for what is kept there. -/
def Declines (R : Region) (c : ConnectionId) (interceptor : Interceptor) (call : Call) : Prop :=
  ∀ k key, interceptor.role = .cache k → R.kept c key → (R.policy k).keyFor call ≠ some key

/-! ## Statements of the driver -/

/-- **The driver makes a statement.** It lies in the region, as every new one does. -/
theorem confined_issue (w : World) (statement : PhysicalStatement)
    (event : StatementId → DriverEvent) (he : ∀ id, (event id).made? = some id) :
    R.Confined P w { w with driver := (w.driver.issue statement event).1 }
      (R.Holds (.physical w.driver.statements.next)) :=
  ((confined_driver w (w.driver.touches_issue statement he) fun _ hw => hw.statements).knows
    fun _ hw => hw.statements _ w.driver.statements.not_known_next).gives fun _ hq => hq.1

theorem confined_ask (w : World) (c : ConnectionId) (call : Call) :
    R.Confined P w (w.ask c call).1 (R.Has (World.handlesAnswered (w.ask c call).2)) := by
  obtain ⟨h, hnone⟩ | ⟨_, _, _, -, -, he, -, h⟩ := w.ask_cases c call
  · rw [h, World.handlesAnswered_of_ne hnone]
    exact (Confined.refl R P w).gives fun _ _ => R.has_zero
  · rw [h]
    exact (confined_issue w _ _ he).gives fun _ hh => (R.has_singleton _).mpr hh

/-! ## Calls -/

section Links

variable {rest : List Interceptor} {next : Call → World → World × Answer}
  (hnext : ∀ (call : Call) (w : World), w.Links c rest →
    R.Confined (R.connections c) w (next call w).1
      (R.Has (World.handlesAnswered (next call w).2)))

include hnext

theorem confined_fill (k : CacheId) (call : Call) (w : World) (hl : w.Links c rest) :
    R.Confined (R.connections c ∧ R.caches k) w (World.fill k next call w).1
      (R.Has (World.handlesAnswered (World.fill k next call w).2)) := by
  have h := (hnext call w hl).given (T := R.connections c ∧ R.caches k) fun h _ => h.1
  unfold World.fill
  split
  · next v handle hn =>
      rw [hn] at h
      have hwrap := (confined_wrapPrepared v k handle call).given
        (T := (R.connections c ∧ R.caches k) ∧ R.Has {handle})
        fun hh _ => ⟨hh.1.2, (R.has_singleton _).mp hh.2⟩
      split
      · next hw =>
          rw [hw] at hwrap
          exact h.trans hwrap
      · next hw =>
          rw [hw] at hwrap
          exact h.trans hwrap
  · exact h

theorem confined_serve (interceptor : Interceptor) {k : CacheId}
    (hk : interceptor.role = .cache k) (call : Call) (w : World)
    (hl : w.Links c (interceptor :: rest)) :
    R.Confined (R.connections c ∧ R.Declines c interceptor call) w (World.serve k next call w).1
      (R.Has (World.handlesAnswered (World.serve k next call w).2)) := by
  have hmem := hl.cache hk
  -- a link of the region looks up in the store of its own connection
  have hfetch : R.Confined (R.connections c ∧ R.Declines c interceptor call) w (w.fetch k call).1
      (R.caches k ∧ R.Has (World.handlesFound (w.fetch k call).2)) := by
    have hspurns : R.connections c ∧ R.Declines c interceptor call → R.Closed w →
        R.caches k ∧ R.Spurns w k call := by
      intro h hw
      refine ⟨(hw.chain c k h.1 hmem).1, fun binding hb key hkept => ?_⟩
      rw [hw.tied c k binding h.1 hmem hb] at hkept
      rw [hw.policy c key k hkept hmem]
      exact h.2 k key hk hkept
    exact ((confined_fetch w k call).given hspurns).knows fun h hw => (hspurns h hw).1
  have hon : ∀ v : World, w.Grows v →
      R.Confined ((R.connections c ∧ R.Declines c interceptor call) ∧ R.caches k) v
        (World.fill k next call v).1
        (R.Has (World.handlesAnswered (World.fill k next call v).2)) := fun v hv =>
    (confined_fill hnext k call v (hl.tail.grows hv)).given fun h _ => ⟨h.1.1, h.2⟩
  unfold World.serve
  split
  · split
    · next hf =>
        rw [hf] at hfetch
        exact hfetch.gives fun _ _ => R.has_zero
    · next v hf =>
        rw [hf] at hfetch
        exact hfetch.trans ((hon v hfetch.grows).given fun h _ => ⟨h.1, h.2.1⟩)
    · next v tracked hf =>
        rw [hf] at hfetch
        have hwrap := hfetch.and ((confined_wrap v k tracked).given fun h _ =>
          (R.has_singleton _).mp h.2.2)
        split
        · next hw =>
            rw [hw] at hwrap
            exact hwrap.gives fun _ hq => hq.2
        · next u _ hw =>
            rw [hw] at hwrap
            exact hwrap.trans ((hon u hwrap.grows).given fun h _ => ⟨h.1, h.2.1.1⟩)
  · exact (hnext call w hl.tail).given fun h _ => h.1

theorem confined_handle (interceptor : Interceptor) (call : Call) (w : World)
    (hl : w.Links c (interceptor :: rest)) :
    R.Confined (R.connections c ∧ R.Declines c interceptor call) w
      (World.handle interceptor next call w).1
      (R.Has (World.handlesAnswered (World.handle interceptor next call w).2)) := by
  cases interceptor.conduct call with
  | serves k hk h =>
      rw [h]
      exact confined_serve hnext interceptor (Interceptor.role_of_cache hk) call w hl
  | handsOn passed hk hon hm h =>
      rw [h]
      exact (hnext passed w hl.tail).given fun h _ => h.1
  | supplies hk hon hs h =>
      rw [h]
      exact (confined_issue w { sql := "answered" } (fun id => .prepared id "answered")
        fun _ => rfl).gives fun _ hh => (R.has_singleton _).mpr hh
  | answers answer hk hon hne h =>
      rw [h, World.handlesAnswered_of_ne hne]
      exact (Confined.refl R _ w).gives fun _ _ => R.has_zero

end Links

/-- The induction is on the interceptors that the call has still to pass. -/
theorem confined_send (c : ConnectionId) (chain : List Interceptor) :
    ∀ (position : Nat) (call : Call) (w : World), w.Links c chain →
      R.Confined (R.connections c) w (World.send c chain position call w).1
        (R.Has (World.handlesAnswered (World.send c chain position call w).2)) := by
  induction chain with
  | nil => exact fun _ call w _ => confined_ask w c call
  | cons interceptor rest ih =>
      intro position call w hl
      have hentered := confined_note (R := R) (P := R.connections c) w (.link c position)
        interceptor (.enter call rest.length (w.connection c).metadata.number)
      have hhandled := (confined_handle (R := R) (ih (position + 1)) interceptor call _
        (hl.grows hentered.grows)).given
        (T := R.connections c ∧ R.Harmless ⟨.link c position, interceptor,
          .enter call rest.length (w.connection c).metadata.number, w.driver.log.length⟩)
        fun h _ => ⟨h.1, fun k key hk hkept => h.2.asked rfl hk rfl hkept⟩
      exact ((hentered.trans hhandled).and (confined_note _ _ _ _)).gives fun _ hq => hq.1

/-- **A call on a connection of the region**, and what it is answered with, stay within the
region. -/
theorem confined_perform (w : World) (c : ConnectionId) (call : Call) :
    R.Confined (R.connections c) w (w.perform c call).1
      (R.Has (World.handlesAnswered (w.perform c call).2)) :=
  confined_send c _ 0 call w (w.links_chain c)

/-! ## Hooks -/

/-- **Interceptors are told of a hook**, if each of them does what it does within the region, in
any later world that looks the same from outside. Nobody is told that a connection where something
is kept is disconnected. -/
theorem confined_tell {p : PoolId} {hook : Hook} (receiver : Nat → Receiver)
    {interceptors : List Interceptor} {w : World}
    (hreact : ∀ interceptor ∈ interceptors, ∀ v : World, w.Grows v → w.Unseen v →
      R.Confined (P ∧ ∀ c finalizing, hook = .disconnected c finalizing → ∀ key, ¬ R.kept c key) v
        (World.react p interceptor hook v) True) :
    R.Confined P w (World.tell p hook receiver interceptors w) True := by
  have hall : ∀ (entries : List (Interceptor × Nat)) (v : World), w.Grows v → w.Unseen v →
      (∀ entry ∈ entries, entry.1 ∈ interceptors) →
      R.Confined P v (entries.foldl (fun v entry =>
        World.deliver p hook (receiver entry.2) entry.1 v) v) True := by
    intro entries
    induction entries with
    | nil => exact fun v _ _ _ => .refl R P v
    | cons entry rest ih =>
        intro v hg hu hin
        have hunseen := v.unseen_note (receiver entry.2) entry.1
          (.hook hook (v.sight p hook.connection?))
        have hnoted := confined_note (R := R) (P := P) v (receiver entry.2) entry.1
          (.hook hook (v.sight p hook.connection?))
        have hdelivered := hnoted.trans ((hreact entry.1 (hin entry List.mem_cons_self) _
          (hg.trans hnoted.grows) (hu.trans hunseen)).given fun h _ =>
            ⟨h.1, fun c finalizing hd key => h.2.told (by rw [hd])⟩)
        exact hdelivered.trans ((ih _ (hg.trans hdelivered.grows)
          ((hu.trans hunseen).trans (World.deeds_react _ p entry.1 hook).unseen) fun e he =>
            hin e (List.mem_cons_of_mem _ he)).given fun h _ => h.1)
  exact hall _ w (.refl w) (.refl w) fun entry he => List.fst_mem_of_mem_zipIdx he

theorem confined_reactLink {interceptor : Interceptor} {hook : Hook} {c : ConnectionId}
    (hc : hook.connection? = some c) (w : World) {p : PoolId} (hp : (w.connection c).pool = p)
    (hl : w.Links c [interceptor])
    (hd : hook = .detached c → (w.connection c).isTornDown = false) :
    R.Confined (R.connections c
        ∧ ∀ c finalizing, hook = .disconnected c finalizing → ∀ key, ¬ R.kept c key) w
      (World.react p interceptor hook w) True := by
  obtain rfl := hp
  have hcache : ∀ {k}, interceptor.role = .cache k → R.connections c → R.Closed w → R.caches k :=
    fun hk hcr hw => (hw.chain c _ hcr (hl.cache hk)).1
  have hhome : ∀ {k}, interceptor.role = .cache k → R.connections c → R.Closed w →
      R.pools (w.connection c).pool :=
    fun hk hcr hw => hw.home c _ hcr (hl.cache hk)
  have hknown : w.connections.Known c := by
    refine w.known_of_chain_ne_nil fun hnil => ?_
    have hm := hl interceptor List.mem_cons_self
    rw [hnil] at hm
    exact absurd hm List.not_mem_nil
  -- what a cache of the chain is attached to is the connection
  have htied : ∀ {k}, interceptor.role = .cache k → R.connections c → R.Closed w →
      ∀ earlier, (w.cache k).binding = some earlier → earlier.connection = c :=
    fun hk hcr hw earlier he => hw.tied c _ earlier hcr (hl.cache hk) he
  unfold World.react
  split
  · cases hc
  · cases hc
  · next k d hk =>
      cases hc
      refine (confined_attach w k _ c).given fun h hw => ⟨⟨hcache hk h.1 hw, hhome hk h.1 hw, h.1,
        hknown, fun d hd hkd => hw.apart c d k h.1 hd (hl.cache hk) hkd⟩, fun earlier he key _ => ?_⟩
      rw [htied hk h.1 hw earlier he]
      exact World.isHeld_attach (hw.chain c k h.1 (hl.cache hk)).2 _ c
  · next k d finalizing hk =>
      cases hc
      exact (confined_drain w k _ c).given fun h hw =>
        ⟨hcache hk h.1 hw, hhome hk h.1 hw, h.1, h.2 c finalizing rfl⟩
  · next k d hk =>
      cases hc
      refine (confined_detach w k).given fun h hw => ⟨hcache hk h.1 hw, fun earlier he key _ => ?_⟩
      rw [htied hk h.1 hw earlier he]
      exact w.isHeld_rebind_of_not_isTornDown k none (hd rfl)
  · exact .refl R _ w

/-- **The chain of a connection of the region is told** of a hook that is about the connection. Its
caches are detached before it is torn down. -/
theorem confined_tellChain (w : World) {c : ConnectionId} {hook : Hook}
    (hc : hook.connection? = some c)
    (hd : hook = .detached c → w.connections.Known c → (w.connection c).isTornDown = false) :
    R.Confined (R.connections c) w (w.tellChain c hook) True := by
  refine confined_tell (Receiver.link c) fun interceptor hi v hg hu => ?_
  have hknown := w.known_of_chain_ne_nil (List.ne_nil_of_mem hi)
  have hframe : (v.connection c).frame = (w.connection c).frame := hg.frame c hknown
  refine confined_reactLink hc v (Connection.pool_of_frame hframe) (fun i hm => ?_) fun h => ?_
  · rw [List.mem_singleton.mp hm, Connection.chain_of_frame hframe]
    exact hi
  · rw [hu.read Connection.isTornDown fun _ => rfl]
    exact hd h hknown

/-- **The listeners of a pool of the region are told** of a hook that is about the pool. A new
counter lies in the region. -/
theorem confined_tellListeners (w : World) (p : PoolId) {hook : Hook}
    (hc : hook.connection? = none) :
    R.Confined (R.pools p ∧ ∀ n, ¬ w.counters.Known n → R.counters n) w (w.tellListeners p hook)
      True := by
  refine confined_tell (Receiver.listener p) fun interceptor _ v hg _ => ?_
  unfold World.react
  split
  · refine (confined_startCounting v p).given fun h _ => ⟨h.1.1, h.1.2 _ fun hk => ?_⟩
    exact v.counters.not_known_next (hk.mono hg.counters)
  · exact (confined_stopCounting v p).given fun h _ => h.1.1
  · cases hc
  · cases hc
  · cases hc
  · exact .refl R _ v

end Region

end ConnectionPool
