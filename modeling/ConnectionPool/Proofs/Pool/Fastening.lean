import ConnectionPool.Proofs.Calls.Tallying
import ConnectionPool.Proofs.Pool.Acquiring

/-!
# Caches are fastened to their connections

The caches of a chain are attached to the connection when it is handed out, and detached after its
line was closed. Between commands, therefore, the caches of an open connection are attached to it,
those of a closed one to nothing, and no other cache is attached at all, except to those connections
to which clients attach caches of their own (`World.Fastened`).

An operation of a pool is `World.Steady` if it keeps it so, and neither tallies nor prepares
anything. All are. While a connection is opened its caches are not attached yet; it is then said to
be due.
-/

set_option autoImplicit false

namespace ConnectionPool

namespace World

variable {own : ConnectionId → Prop} {due due' due'' : Option ConnectionId} {w w' w'' : World}
  {c : ConnectionId} {k : CacheId}

/-- What the caches of a connection are attached to: to the connection as long as it is open, and
then to nothing. -/
def Fits (c : ConnectionId) (closed : Bool) (binding : Option Binding) : Prop :=
  match closed with
  | false => ∃ n, binding = some ⟨c, n⟩
  | true => binding = none

/-- **The caches of an open connection are attached to it**, unless it is due, and those of a closed
one to nothing. A cache of no chain may be attached where clients attach caches of their own. -/
structure Fastened (own : ConnectionId → Prop) (due : Option ConnectionId) (w : World) : Prop where
  known : ∀ c, ∀ k ∈ (w.connection c).caches, w.caches.Known k
  apart : ∀ c d k, k ∈ (w.connection c).caches → k ∈ (w.connection d).caches → c = d
  home : ∀ k binding, (w.cache k).binding = some binding →
    k ∈ (w.connection binding.connection).caches
      ∨ (own binding.connection ∧ ∀ c, k ∉ (w.connection c).caches)
  fits : ∀ c, due ≠ some c → ∀ k ∈ (w.connection c).caches,
    Fits c (w.connection c).closed (w.cache k).binding

/-- What a cache of a chain is attached to is the connection. -/
theorem Fastened.boundTo (h : w.Fastened own due) (c : ConnectionId) :
    w.BoundTo c (w.connection c).chain := by
  intro interceptor hi k hk binding hb
  have hmem : k ∈ (w.connection c).caches := List.mem_filterMap.mpr ⟨interceptor, hi, hk⟩
  rcases h.home k binding hb with hhome | ⟨-, hnone⟩
  · exact h.apart _ _ k hhome hmem
  · exact absurd hmem (hnone c)

/-- Caches stay fastened if connections keep their chains, and stay open or closed. -/
theorem Fastened.congr (h : w.Fastened own due) (hcaches : w'.caches = w.caches)
    (hchain : ∀ c, (w'.connection c).chain = (w.connection c).chain)
    (hclosed : ∀ c, (w'.connection c).closed = (w.connection c).closed) : w'.Fastened own due := by
  have hlinks : ∀ c, (w'.connection c).caches = (w.connection c).caches := fun c => by
    rw [Connection.caches, hchain, Connection.caches]
  have hcache : ∀ k, w'.cache k = w.cache k := fun k => by rw [cache, hcaches, cache]
  refine ⟨fun c k hk => ?_, fun c d k hc hd => ?_, fun k binding hb => ?_, fun c hdue k hk => ?_⟩
  · rw [hlinks] at hk
    exact hcaches ▸ h.known c k hk
  · rw [hlinks] at hc hd
    exact h.apart c d k hc hd
  · rw [hcache] at hb
    simp only [hlinks]
    exact h.home k binding hb
  · rw [hlinks] at hk
    rw [hclosed, hcache]
    exact h.fits c hdue k hk

theorem Fastened.weaken (h : w.Fastened own none) : w.Fastened own due :=
  { h with fits := fun c _ => h.fits c (Option.some_ne_none c).symm }

/-- **An operation that keeps the caches fastened**, and neither tallies nor prepares anything. -/
structure Steady (due due' : Option ConnectionId) (w w' : World) : Prop where
  fastened : ∀ {own}, w.Fastened own due → w'.Fastened own due'
  tally : ∀ c, (w'.store c).tally = (w.store c).tally
  recorded : w.driver.Recorded → w'.driver.Recorded
  prepared : w.driver.Recorded → ∀ line,
    w'.driver.preparationsOn line = w.driver.preparationsOn line
  caches : ∀ k, w.caches.Known k →
    w'.caches.Known k ∧ (w'.cache k).fallible = (w.cache k).fallible

theorem Steady.trans (h : Steady due due' w w') (h' : Steady due' due'' w' w'') :
    Steady due due'' w w'' where
  fastened hw := h'.fastened (h.fastened hw)
  tally c := (h'.tally c).trans (h.tally c)
  recorded hr := h'.recorded (h.recorded hr)
  prepared hr line := (h'.prepared (h.recorded hr) line).trans (h.prepared hr line)
  caches k hk := ⟨(h'.caches k (h.caches k hk).1).1,
    (h'.caches k (h.caches k hk).1).2.trans (h.caches k hk).2⟩

theorem Steady.weaken (h : Steady due none w w') : Steady due due' w w' :=
  { h with fastened := fun hw => (h.fastened hw).weaken }

/-! ## What is calm is steady -/

/-- What is calm is steady if connections keep their chains, and stay open or closed. -/
theorem Calm.steady (h : Calm none w w')
    (hchain : ∀ c, (w'.connection c).chain = (w.connection c).chain)
    (hclosed : ∀ c, (w'.connection c).closed = (w.connection c).closed) :
    Steady due due w w' where
  fastened hw := hw.congr h.caches hchain hclosed
  tally := h.tally_of_none
  recorded := h.recorded
  prepared := h.prepared_of_none
  caches k hk := ⟨h.caches ▸ hk, by rw [cache, h.caches, cache]⟩

/-- What interceptors do is steady if it is calm. -/
theorem Calm.steady_of_unseen (h : Calm none w w') (hunseen : w.Unseen w') : Steady due due w w' :=
  h.steady (hunseen.read Connection.chain fun _ => rfl)
    (hunseen.read Connection.closed fun _ => rfl)

theorem Steady.refl (w : World) : Steady due due w w :=
  (Calm.refl w).steady (fun _ => rfl) fun _ => rfl

/-- The books of pools are of no account. -/
theorem steady_updatePool (w : World) (p : PoolId) (f : Pool → Pool) :
    Steady due due w (w.updatePool p f) := by
  have hcalm : Calm none w (w.updatePool p f) := calm_of_same rfl rfl rfl
  exact hcalm.steady (fun _ => rfl) fun _ => rfl

/-- Nor is it who holds a connection beyond its checkout. -/
theorem steady_shares (w : World) (shares : List ConnectionId) :
    Steady due due w { w with shares } := by
  have hcalm : Calm none w { w with shares } := calm_of_same rfl rfl rfl
  exact hcalm.steady (fun _ => rfl) fun _ => rfl

/-- Letting go of a store keeps what is attached where it is. -/
theorem steady_forget (w : World) (c : ConnectionId) : Steady due due w (w.forget c) :=
  (w.calm_forget c).steady_of_unseen (w.unseen_forget c)

theorem steady_forgetAll (l : List ConnectionId) (w : World) :
    Steady due due w (l.foldl forget w) :=
  forgetAll_rule (P := Steady due due w) l (.refl w) fun v c hv => hv.trans (v.steady_forget c)

/-- Nor are the records of connections. -/
theorem steady_updateMetadata (w : World) (c : ConnectionId) (f : Metadata → Metadata) :
    Steady due due w (w.updateMetadata c f) := by
  have hread : ∀ {β : Type} (read : Connection → β),
      (∀ connection metadata, read { connection with metadata } = read connection) →
      ∀ d, read ((w.updateMetadata c f).connection d) = read (w.connection d) :=
    fun read hr => w.connection_updateConnection_congr c _ read fun _ => hr _ _
  refine Calm.steady ⟨⟨hread _ fun _ _ => rfl, fun d _ => ?_, id, fun _ _ _ => rfl⟩, rfl⟩
    (hread _ fun _ _ => rfl) (hread _ fun _ _ => rfl)
  exact congrArg Store.tally (congrArg (Option.getD · default)
    (hread Connection.store? (fun _ _ => rfl) d))

/-! ## Attaching and detaching -/

/-- Some caches are attached to something else, as `Bound` says, and nothing else happens. -/
structure Rebinds (Bound : Option Binding → Prop) (ks : List CacheId) (w w' : World) : Prop where
  tame : Tame none w w'
  known : ∀ k, w'.caches.Known k ↔ w.caches.Known k
  inside : ∀ k ∈ ks, w.caches.Known k → Bound (w'.cache k).binding
  outside : ∀ k, k ∉ ks → (w'.cache k).binding = (w.cache k).binding

variable {Bound : Option Binding → Prop} {ks ks' : List CacheId}

theorem Rebinds.trans (h : Rebinds Bound ks w w') (h' : Rebinds Bound ks' w' w'') :
    Rebinds Bound (ks ++ ks') w w'' where
  tame := h.tame.trans h'.tame
  known k := (h'.known k).trans (h.known k)
  inside k hk hknown := by
    by_cases hlater : k ∈ ks'
    · exact h'.inside k hlater ((h.known k).mpr hknown)
    · rw [h'.outside k hlater]
      exact h.inside k ((List.mem_append.mp hk).resolve_right hlater) hknown
  outside k hk := by
    rw [List.mem_append, not_or] at hk
    exact (h'.outside k hk.2).trans (h.outside k hk.1)

/-- Nothing happens to any cache. -/
theorem Tame.rebinds (h : Tame none w w') (hcaches : w'.caches = w.caches) :
    Rebinds Bound [] w w' where
  tame := h
  known k := by rw [hcaches]
  inside k hk := absurd hk List.not_mem_nil
  outside k _ := by rw [cache, hcaches, cache]

theorem rebinds_updateCache (w : World) (k : CacheId) {binding : Option Binding}
    (hb : Bound binding) :
    Rebinds Bound [k] w (w.updateCache k fun cache => { cache with binding }) where
  tame := tame_of_same rfl rfl
  known := Registry.known_modify _ _ _
  inside l hl hknown := by
    obtain rfl := List.mem_singleton.mp hl
    rw [cache_updateCache, if_pos ⟨rfl, hknown⟩]
    exact hb
  outside l hl := by
    rw [cache_updateCache, if_neg fun h => hl (List.mem_singleton.mpr h.1.symm)]

theorem rebinds_rebind (w : World) (k : CacheId) {binding : Option Binding}
    (hb : Bound binding) : Rebinds Bound [k] w (w.rebind k binding) := by
  refine rebind_rule (P := Rebinds Bound [k] w) (w.rebinds_updateCache k hb) fun v c hv => ?_
  have hcalm : Calm none v (v.forget c) := v.calm_forget c
  exact hv.trans (hcalm.toTame.rebinds hcalm.caches)

/-- **A hook at which every cache is attached to something else.** -/
theorem rebinds_tell (w : World) (p : PoolId) {hook : Hook}
    (hh : ∀ interceptor k w, interceptor.cache? = some k →
      Rebinds Bound [k] w (react p interceptor hook w))
    (receiver : Nat → Receiver) (interceptors : List Interceptor) :
    Rebinds Bound (interceptors.filterMap Interceptor.cache?) w
      (tell p hook receiver interceptors w) := by
  have hfold : ∀ (l : List (Interceptor × Nat)) (v : World),
      Rebinds Bound ((l.map Prod.fst).filterMap Interceptor.cache?) v
        (l.foldl (fun w entry => deliver p hook (receiver entry.2) entry.1 w) v) := by
    intro l
    induction l with
    | nil => exact fun v => (Calm.refl v).toTame.rebinds rfl
    | cons entry rest ih =>
        intro v
        have hcalm : Calm none v (v.note (receiver entry.2) entry.1
          (.hook hook (v.sight p hook.connection?))) := calm_of_same rfl rfl rfl
        have hnote : Rebinds Bound [] v (v.note (receiver entry.2) entry.1
            (.hook hook (v.sight p hook.connection?))) := hcalm.toTame.rebinds hcalm.caches
        rw [List.map_cons, List.filterMap_cons]
        cases hk : entry.1.cache? with
        | none =>
            have hrest := hnote.trans (ih (v.note (receiver entry.2) entry.1
              (.hook hook (v.sight p hook.connection?))))
            rw [List.nil_append] at hrest
            rw [List.foldl_cons, deliver, react_of_no_cache hk]
            exact hrest
        | some k =>
            exact (hnote.trans (hh entry.1 k _ hk)).trans (ih _)
  have hall := hfold interceptors.zipIdx w
  rw [List.zipIdx_map_fst] at hall
  exact hall

theorem rebinds_tellDetached (w : World) (c : ConnectionId) :
    Rebinds (Fits c true) (w.connection c).caches w (w.tellChain c (.detached c)) := by
  refine rebinds_tell w _ (fun interceptor k v hk => ?_) _ _
  simp only [react, Interceptor.role_of_cache hk]
  exact v.rebinds_rebind k rfl

theorem rebinds_tellAttached (w : World) (c : ConnectionId) :
    Rebinds (Fits c false) (w.connection c).caches w
      (w.tellChain c (.attached c)) := by
  refine rebinds_tell w _ (fun interceptor k v hk => ?_) _ _
  have hprovide : Calm none v (v.provideStore c) := v.calm_provideStore c
  simp only [react, Interceptor.role_of_cache hk]
  exact (hprovide.toTame.rebinds hprovide.caches).trans
    (rebinds_rebind _ k ⟨_, rfl⟩)

/-- **The caches of one connection are attached to what they should be**, and nothing happens to any
other connection. -/
theorem Rebinds.steady (h : Rebinds (Fits c (w'.connection c).closed) (w.connection c).caches w w')
    (hdue : ∀ d, due = some d → d = c)
    (hchain : ∀ d, (w'.connection d).chain = (w.connection d).chain)
    (hclosed : ∀ d, c ≠ d → (w'.connection d).closed = (w.connection d).closed)
    (hfallible : ∀ k, (w'.cache k).fallible = (w.cache k).fallible) : Steady due none w w' := by
  have hlinks : ∀ d, (w'.connection d).caches = (w.connection d).caches := fun d => by
    rw [Connection.caches, hchain, Connection.caches]
  refine ⟨fun hw => ⟨fun d k hk => ?_, fun d e k hd he => ?_, fun k binding hb => ?_,
      fun d _ k hk => ?_⟩, h.tame.tally_of_none, h.tame.recorded, h.tame.prepared_of_none,
    fun k hk => ⟨(h.known k).mpr hk, hfallible k⟩⟩
  · rw [hlinks] at hk
    exact (h.known k).mpr (hw.known d k hk)
  · rw [hlinks] at hd he
    exact hw.apart d e k hd he
  · simp only [hlinks]
    by_cases hk : k ∈ (w.connection c).caches
    · have hfits := h.inside k hk (hw.known c k hk)
      rw [hb] at hfits
      cases hopen : (w'.connection c).closed with
      | true =>
          rw [hopen] at hfits
          cases hfits
      | false =>
          rw [hopen] at hfits
          obtain ⟨n, hn⟩ := hfits
          cases hn
          exact Or.inl hk
    · rw [h.outside k hk] at hb
      exact hw.home k binding hb
  · rw [hlinks] at hk
    by_cases hcd : c = d
    · subst hcd
      exact h.inside k hk (hw.known c k hk)
    · rw [h.outside k fun hc => hcd (hw.apart c d k hc hk), hclosed d hcd]
      exact hw.fits d (fun he => hcd (hdue d he).symm) k hk

/-- **A connection is handed out**: its caches are attached to it, and it is not due any more. -/
theorem steady_tellAttached (hopen : (w.connection c).closed = false) :
    Steady (some c) none w (w.tellChain c (.attached c)) := by
  have htold := w.rebinds_tellAttached c
  have hunseen := w.unseen_tellChain c (.attached c)
  have hclosed := hunseen.read Connection.closed fun _ => rfl
  rw [← hopen, ← hclosed] at htold
  exact htold.steady (fun _ h => (Option.some.inj h).symm)
    (hunseen.read Connection.chain fun _ => rfl) (fun d _ => hclosed d) hunseen.fallible

/-! ## Tearing down -/

/-- The chain is told that the connection is about to be closed. -/
theorem calm_tellDisconnected (w : World) (c : ConnectionId) (finalizing : Bool) :
    Calm none w (w.tellChain c (.disconnected c finalizing)) := by
  refine calm_tell w _ (fun interceptor v => ?_) _ _
  unfold react
  split
  · next h => cases h
  · next h => cases h
  · next h => cases h
  · exact v.calm_drain _ _ _
  · next h => cases h
  · exact .refl v

theorem steady_tellDisconnected (w : World) (c : ConnectionId) (finalizing : Bool) :
    Steady due due w (w.tellChain c (.disconnected c finalizing)) :=
  (w.calm_tellDisconnected c finalizing).steady_of_unseen (w.unseen_tellChain c _)

theorem hangUp_of_closed (h : (w.connection c).closed = true) : w.hangUp c = w := by
  rw [hangUp, if_pos h]

theorem hangUp_of_open (h : (w.connection c).closed = false) :
    w.hangUp c
      = { w.updateConnection c fun connection => { connection with closed := true } with
          driver := w.driver.closeConnection (w.connection c).physical } := by
  rw [hangUp, if_neg (by rw [h]; exact Bool.false_ne_true)]
  rfl

/-- What closing a connection leaves alone of all connections. -/
theorem connection_hangUp_congr {β : Type} (w : World) (c : ConnectionId) (read : Connection → β)
    (hr : ∀ connection closed, read { connection with closed } = read connection)
    (d : ConnectionId) : read ((w.hangUp c).connection d) = read (w.connection d) := by
  cases hc : (w.connection c).closed with
  | true => rw [hangUp_of_closed hc]
  | false =>
      rw [hangUp_of_open hc]
      exact w.connection_updateConnection_congr c _ read (fun _ => hr _ _) d

/-- A connection that was closed is closed, and the others are as they were. -/
theorem closed_hangUp (w : World) (c d : ConnectionId) :
    ((w.hangUp c).connection d).closed = (decide (c = d) || (w.connection d).closed) := by
  cases hc : (w.connection c).closed with
  | true =>
      rw [hangUp_of_closed hc]
      by_cases hcd : c = d
      · rw [← hcd, hc, Bool.or_true]
      · rw [decide_eq_false hcd, Bool.false_or]
  | false =>
      have hknown : w.connections.Known c := by
        by_contra hn
        rw [connection, Registry.get_of_not_known hn] at hc
        cases hc
      rw [hangUp_of_open hc]
      refine (congrArg Connection.closed (w.connection_updateConnection c
        (fun connection => { connection with closed := true }) d)).trans ?_
      by_cases hcd : c = d
      · subst hcd
        rw [if_pos ⟨rfl, hknown⟩, decide_eq_true rfl, Bool.true_or]
      · rw [if_neg fun h => hcd h.1, decide_eq_false hcd, Bool.false_or]

theorem calm_hangUp (w : World) (c : ConnectionId) : Calm none w (w.hangUp c) := by
  have htally : ∀ d, ((w.hangUp c).store d).tally = (w.store d).tally := fun d =>
    congrArg Store.tally (congrArg (Option.getD · default)
      (w.connection_hangUp_congr c Connection.store? (fun _ _ => rfl) d))
  have hphysical := w.connection_hangUp_congr c Connection.physical fun _ _ => rfl
  cases hc : (w.connection c).closed with
  | true =>
      rw [hangUp_of_closed hc]
      exact .refl w
  | false =>
      have hprepares := w.driver.prepares_closeConnection (w.connection c).physical
      rw [hangUp_of_open hc] at htally hphysical ⊢
      exact ⟨⟨hphysical, fun d _ => htally d, hprepares.recorded,
        fun hr line _ => hprepares.count hr line⟩, rfl⟩

/-- **A connection is closed**, and its caches are detached. -/
theorem steady_disconnect (w : World) (c : ConnectionId) :
    Steady none none w ((w.hangUp c).tellChain c (.detached c)) := by
  have hhung := w.calm_hangUp c
  have htold := (w.hangUp c).rebinds_tellDetached c
  have hunseen := (w.hangUp c).unseen_tellChain c (.detached c)
  have hclosed : ∀ d, (((w.hangUp c).tellChain c (.detached c)).connection d).closed
      = (decide (c = d) || (w.connection d).closed) := fun d =>
    (hunseen.read Connection.closed (fun _ => rfl) d).trans (w.closed_hangUp c d)
  have hself : (((w.hangUp c).tellChain c (.detached c)).connection c).closed = true := by
    rw [hclosed, decide_eq_true rfl, Bool.true_or]
  have hboth := (hhung.toTame.rebinds hhung.caches).trans htold
  rw [← hself, List.nil_append,
    w.connection_hangUp_congr c Connection.caches fun _ _ => rfl] at hboth
  refine hboth.steady (fun d h => absurd h (Option.some_ne_none d).symm) (fun d => ?_)
    (fun d hcd => ?_) fun k => ?_
  · exact (hunseen.read Connection.chain (fun _ => rfl) d).trans
      (w.connection_hangUp_congr c Connection.chain (fun _ _ => rfl) d)
  · rw [hclosed, decide_eq_false hcd, Bool.false_or]
  · rw [hunseen.fallible, cache, hhung.caches, cache]

/-- **A cache that is in no chain** may be detached, and attached where clients attach their own. -/
theorem Fastened.rebind (hw : w.Fastened own due) (hk : ∀ c, k ∉ (w.connection c).caches)
    {binding : Option Binding} (hb : ∀ b, binding = some b → own b.connection) :
    (w.updateCache k fun cache => { cache with binding }).Fastened own due := by
  have hcache : ∀ l, l ≠ k →
      (w.updateCache k fun cache => { cache with binding }).cache l = w.cache l := fun l hl => by
    rw [cache_updateCache, if_neg fun h => hl h.1.symm]
  refine ⟨fun c l hl => ?_, hw.apart, fun l b hl => ?_, fun c hdue l hl => ?_⟩
  · exact (Registry.known_modify _ _ _ l).mpr (hw.known c l hl)
  · by_cases hlk : l = k
    · subst hlk
      rw [cache_updateCache] at hl
      split at hl
      · exact Or.inr ⟨hb b hl, hk⟩
      · exact hw.home l b hl
    · rw [hcache l hlk] at hl
      exact hw.home l b hl
  · have hne : l ≠ k := fun he => hk c (he ▸ hl)
    rw [hcache l hne]
    exact hw.fits c hdue l hl

theorem steady_detach (hk : ∀ c, k ∉ (w.connection c).caches) : Steady due due w (w.detach k) := by
  refine rebind_rule (P := Steady due due w) ?_ fun v c hv => hv.trans (v.steady_forget c)
  refine ⟨fun hw => hw.rebind hk fun b hb => absurd hb.symm (Option.some_ne_none b), fun _ => rfl,
    id, fun _ _ => rfl, fun l hl => ⟨(Registry.known_modify _ _ _ l).mpr hl, ?_⟩⟩
  rw [cache_updateCache]
  split <;> rfl

/-- **A client attaches a cache of its own** to one of the connections where it does so. -/
theorem Fastened.attach (hw : w.Fastened own due) (hk : ∀ d, k ∉ (w.connection d).caches)
    (hown : own c) (p : PoolId) : (w.attach k p c).Fastened own due := by
  have hcalm : Calm none w (w.provideStore c) := w.calm_provideStore c
  have hunseen := (w.deeds_provideStore c).unseen
  have hchain := hunseen.read Connection.chain fun _ => rfl
  have hprovided : (w.provideStore c).Fastened own due :=
    hw.congr hcalm.caches hchain (hunseen.read Connection.closed fun _ => rfl)
  refine rebind_rule (P := fun v => v.Fastened own due)
    (hprovided.rebind (fun d => ?_) fun b hb => Option.some.inj hb ▸ hown)
    fun v e hv => (v.steady_forget e).fastened hv
  rw [Connection.caches, hchain]
  exact hk d

theorem steady_teardown (finalizing : Bool) (w : World) (c : ConnectionId) :
    Steady none none w (teardown finalizing w c) := by
  unfold teardown
  exact (((w.steady_updateMetadata c _).trans (steady_tellDisconnected _ c finalizing)).trans
    (steady_disconnect _ c)).trans (steady_updateMetadata _ c _)

theorem steady_teardownAll (finalizing : Bool) (l : List ConnectionId) :
    ∀ w : World, Steady none none w (l.foldl (teardown finalizing) w) := by
  induction l with
  | nil => exact fun w => .refl w
  | cons c rest ih => exact fun w => (steady_teardown finalizing w c).trans (ih _)

theorem steady_retire (w : World) (c : ConnectionId) : Steady none none w (w.retire c) :=
  ((w.steady_updatePool _ _).trans (steady_teardown false _ c)).trans (steady_forget _ c)

theorem steady_checkIn (w : World) (c : ConnectionId) : Steady none none w (w.checkIn c) := by
  unfold checkIn
  simp only
  split
  · exact w.steady_retire c
  · exact (w.steady_updateMetadata c _).trans (steady_updatePool _ _ _)

theorem steady_sweep (w : World) (p : PoolId) : Steady none none w (w.sweep p).1 :=
  ((w.steady_updatePool p _).trans (steady_teardownAll false (w.expired p) _)).trans
    (steady_forgetAll _ _)

/-- The listeners of a pool are told that it has started or closed. -/
theorem steady_tellListeners (w : World) (p : PoolId) {hook : Hook}
    (hhook : hook = .poolStarted ∨ hook = .poolClosed) :
    Steady due due w (w.tellListeners p hook) := by
  have hcalm : Calm none w (w.tellListeners p hook) := by
    refine calm_tell w p (fun interceptor v => ?_) _ _
    obtain ⟨name, role⟩ := interceptor
    obtain rfl | rfl := hhook
    · cases role with
      | cache k => exact v.calm_startCounting p
      | _ => exact .refl v
    · cases role with
      | cache k =>
          have hcalm : Calm none v (v.stopCounting p) := calm_of_same rfl rfl rfl
          exact hcalm
      | _ => exact .refl v
  exact hcalm.steady_of_unseen (w.unseen_tellListeners p hook)

theorem steady_shutDown (w : World) (p : PoolId) : Steady none none w (w.shutDown p) := by
  unfold shutDown
  split
  · exact .refl w
  · exact (((w.steady_updatePool p _).trans (steady_teardownAll true _ _)).trans
      (steady_tellListeners _ p (Or.inr rfl))).trans (steady_forgetAll _ _)

/-! ## Opening -/

/-- New caches are attached to nothing, and no chain has them yet. -/
theorem Fastened.moreCaches (hw : w.Fastened own due) {caches : Registry StatementCache}
    (hold : ∀ k, w.caches.Known k → caches.Known k ∧ caches.get k = w.cache k)
    (hnew : ∀ k, ¬ w.caches.Known k → (caches.get k).binding = none) :
    ({ w with caches } : World).Fastened own due where
  known c k hk := (hold k (hw.known c k hk)).1
  apart := hw.apart
  home k binding hb := by
    change (caches.get k).binding = some binding at hb
    by_cases hk : w.caches.Known k
    · rw [(hold k hk).2] at hb
      exact hw.home k binding hb
    · rw [hnew k hk] at hb
      cases hb
  fits c hdue k hk := by
    change Fits c (w.connection c).closed (caches.get k).binding
    rw [(hold k (hw.known c k hk)).2]
    exact hw.fits c hdue k hk

/-- **More caches change nothing** for the connections that there are. -/
theorem steady_moreCaches (w : World) {caches : Registry StatementCache}
    (hold : ∀ k, w.caches.Known k → caches.Known k ∧ caches.get k = w.cache k)
    (hnew : ∀ k, ¬ w.caches.Known k → (caches.get k).binding = none) :
    Steady due due w { w with caches } where
  fastened hw := hw.moreCaches hold hnew
  tally _ := rfl
  recorded := id
  prepared _ _ := rfl
  caches k hk := ⟨(hold k hk).1, congrArg StatementCache.fallible (hold k hk).2⟩

theorem Equipped.steady {definitions : List Definition} {chain : List Interceptor}
    (h : w.Equipped w' definitions chain) : Steady due due w { w with caches := w'.caches } :=
  w.steady_moreCaches h.caches_known h.caches_new

theorem steady_newCache (w : World) (policy : CachePolicy) (fallible : Bool) :
    Steady due due w (w.newCache policy fallible).1 :=
  (w.equipped_newCache policy fallible).steady

theorem steady_startPool (w : World) (config : PoolConfig) :
    Steady none none w (w.startPool config).1 := by
  obtain ⟨error, h⟩ | ⟨sources, h⟩ := w.startPool_cases config
  · rw [h]
    exact .refl w
  · rw [h]
    have hequip : Steady none none w
        { w with caches := (w.makeInterceptors config.interceptors).1.caches } :=
      (w.equipped_makeInterceptors config.interceptors).steady
    have hfounded : Calm none
        { w with caches := (w.makeInterceptors config.interceptors).1.caches }
        (w.founded config sources) := calm_of_same rfl rfl rfl
    exact (hequip.trans (hfounded.steady (fun _ => rfl) fun _ => rfl)).trans
      (steady_tellListeners _ _ (Or.inl rfl))

/-- A driver that prepares nothing. -/
theorem steady_driver {driver : Driver} (h : w.driver.Prepares (fun _ => 0) driver) :
    Steady due due w { w with driver } := by
  have hcalm : Calm none w { w with driver } := calm_driver h
  exact hcalm.steady (fun _ => rfl) fun _ => rfl

/-- A connection is due whose caches are in no other chain, and attached to nothing. -/
theorem Fastened.register (hw : w.Fastened own none) {connection : Connection}
    (hnew : ∀ k ∈ connection.caches, w.caches.Known k ∧ (w.cache k).binding = none
      ∧ ∀ c, k ∉ (w.connection c).caches) :
    ({ w with connections := w.connections.register connection } : World).Fastened own
      (some w.connections.next) := by
  have hcase := w.connection_register connection
  exact
    { known := by
        intro c k hk
        rcases hcase c with ⟨-, hc⟩ | ⟨-, hc⟩ <;> rw [hc] at hk
        · exact (hnew k hk).1
        · exact hw.known c k hk
      apart := by
        intro c d k hkc hkd
        rcases hcase c with ⟨hcn, hc⟩ | ⟨-, hc⟩ <;> rcases hcase d with ⟨hdn, hd⟩ | ⟨-, hd⟩ <;>
          rw [hc] at hkc <;> rw [hd] at hkd
        · exact hcn.trans hdn.symm
        · exact absurd hkd ((hnew k hkc).2.2 d)
        · exact absurd hkc ((hnew k hkd).2.2 c)
        · exact hw.apart c d k hkc hkd
      home := by
        intro k binding hb
        refine (hw.home k binding hb).imp (fun hhome => ?_) fun ⟨hown, hnone⟩ => ⟨hown, ?_⟩
        · rw [connection_register_of_known connection (known_of_mem_caches hhome)]
          exact hhome
        · intro c hk
          rcases hcase c with ⟨-, hc⟩ | ⟨-, hc⟩ <;> rw [hc] at hk
          · have hbound : (w.cache k).binding = some binding := hb
            rw [(hnew k hk).2.1] at hbound
            cases hbound
          · exact hnone c hk
      fits := by
        intro c hdue k hk
        rcases hcase c with ⟨hcn, -⟩ | ⟨-, hc⟩
        · exact absurd (congrArg some hcn.symm) hdue
        · rw [hc] at hk ⊢
          exact hw.fits c (Option.some_ne_none c).symm k hk }

/-- **A connection that is opened is due**: its caches are new, and attached to nothing. -/
theorem Equipped.steady_enlist {definitions : List Definition} {chain : List Interceptor}
    (h : w.Equipped w' definitions chain) (p : PoolId) (number : Nat) :
    Steady none (some w.connections.next) w
      (({ w with caches := w'.caches } : World).enlist p number chain) := by
  have hprepares := w.driver.prepares_openConnection
  exact
    { fastened := fun {own} hw => by
        have hmore := hw.moreCaches h.caches_known h.caches_new
        have hdue : ({ w with
            caches := w'.caches
            connections := w.connections.register
              { pool := p
                physical := w.driver.connections.next
                metadata := .opened number w.now
                chain } } : World).Fastened own (some w.connections.next) :=
          hmore.register fun k hk =>
            ⟨(h.chain_new k hk).1, h.caches_new k (h.chain_new k hk).2, fun c hc =>
              (h.chain_new k hk).2 (hw.known c k hc)⟩
        exact hdue.congr rfl (fun _ => rfl) fun _ => rfl
      tally := fun d => congrArg Store.tally (store_register rfl d)
      recorded := hprepares.recorded
      prepared := hprepares.count
      caches := fun k hk =>
        ⟨(h.caches_known k hk).1, congrArg StatementCache.fallible (h.caches_known k hk).2⟩ }

theorem steady_openConnection (w : World) (p : PoolId) :
    Steady none (w.openConnection p).2.toOption w (w.openConnection p).1 := by
  obtain ⟨due, error, -, h⟩ | ⟨sources, error, -, h⟩ | ⟨v, chain, sources, number, -, he, -, h⟩ :=
    w.openConnection_cases p <;> rw [h]
  · exact steady_driver (.of_origins rfl (fun _ => id) fun _ => rfl)
  · have hprepares := w.driver.prepares_openConnection.trans
      (w.driver.openConnection.1.prepares_closeConnection w.driver.connections.next)
    exact (steady_driver hprepares).trans (steady_updatePool _ _ _)
  · exact ((he.steady_enlist p number).trans
      (steady_updatePool _ p fun pool => { pool with sources })).trans
        (steady_updatePool _ p fun pool => { pool with opened := number })

theorem steady_extend (w : World) (p : PoolId) :
    Steady none (w.extend p).2.toOption w (w.extend p).1 := by
  by_cases hfull : (w.pool p).config.maxConnections ≤ (w.pool p).total
  · rw [extend_of_full hfull]
    exact .refl w
  · have htaken : Steady none none w (w.updatePool p Pool.takeSlot) :=
      w.steady_updatePool p Pool.takeSlot
    have hopened := (w.updatePool p Pool.takeSlot).steady_openConnection p
    obtain ⟨v, result, hv⟩ : ∃ v result, (w.updatePool p Pool.takeSlot).openConnection p
      = (v, result) := ⟨_, _, rfl⟩
    rw [hv] at hopened
    cases result with
    | error error =>
        rw [extend_error (Nat.not_le.mp hfull) hv]
        exact (htaken.trans hopened).trans (steady_updatePool _ _ _)
    | ok c =>
        rw [extend_ok (Nat.not_le.mp hfull) hv]
        exact htaken.trans hopened

/-- What is acquired is due: a new connection is, and one that has waited may be. -/
theorem steady_acquire (p : PoolId) (idle : List ConnectionId) : ∀ w : World,
    Steady none (acquire p idle w).2.toOption w (acquire p idle w).1 := by
  induction idle with
  | nil => exact fun w => w.steady_extend p
  | cons c rest ih =>
      intro w
      have htaken : Steady none none w (w.updatePool p fun pool =>
        { pool with idle := rest, inUse := pool.inUse + 1 }) := w.steady_updatePool p _
      unfold acquire
      simp only
      split
      · exact (htaken.trans (steady_retire _ c)).trans (ih _)
      · exact htaken.weaken

variable {raw : PhysicalConnectionId → Prop} {out : Multiset ConnectionId}

/-- **Checking a connection out** attaches its caches to it. -/
theorem Balanced.steady_checkOut (hw : w.Balanced out) (hplug : w.Plugged raw) (p : PoolId) :
    Steady none none w (w.checkOut p).1 := by
  obtain ⟨-, hrefused⟩ | ⟨hopen, v, error, hv, hfailed⟩ | ⟨hopen, v, c, hv, hhanded⟩ :=
    w.checkOut_cases p
  · rw [hrefused]
    exact .refl w
  · have hacquired := steady_acquire p (w.pool p).idle w
    rw [hv] at hacquired
    rw [hfailed]
    exact hacquired
  · have hacquired := steady_acquire p (w.pool p).idle w
    have hbalanced := (hw.acquire hplug (w.known_of_pool_open hopen) rfl).1.balanced
    rw [hv] at hacquired hbalanced
    have hlive := hbalanced.1.out_live c (Multiset.mem_cons_self c out)
    rw [hhanded]
    refine (hacquired.trans (v.steady_updateMetadata c _)).trans (steady_tellAttached ?_)
    have hsame := v.connection_updateConnection_congr c
      (fun connection => { connection with metadata := connection.metadata.checkOut v.now })
      Connection.closed (fun _ => rfl) c
    exact hsame.trans hlive.unclosed

end World

end ConnectionPool
