import ConnectionPool.Proofs.Scene.Counting

/-!
# Bounded admission

A counter that serves a pool goes on serving it (`OwnTurn.serves`), so its count stays exact
(`OwnTurn.counted`) and never passes the limit of every cache that can take a slot of it
(`OwnTurn.bounded`).
-/

set_option autoImplicit false

namespace ConnectionPool

namespace Scene

variable {S S' : Scene} {p : PoolId} {n : CounterId} {Fits : CachePolicy → Prop}

/-! ## Caches and pools get new counters in one way only -/

/-- A cache is attached as it was, or newly to a connection of an open pool, with the counter of
that pool. -/
def Rebound (S : Scene) (k : CacheId) (binding : Binding) : Prop :=
  (S.world.cache k).binding = some binding
    ∨ (S.world.connections.Known binding.connection
      ∧ (S.world.pool (S.world.connection binding.connection).pool).closed = false
      ∧ binding.counter = (S.world.pool (S.world.connection binding.connection).pool).counter?)

theorem Step.rebound (h : Step S S') {k : CacheId} {binding : Binding}
    (hb : (S'.world.cache k).binding = some binding) : Rebound S k binding := by
  cases h with
  | book hw =>
      rw [hw.cache k] at hb
      exact Or.inl hb
  | @hit _ _ _ _ b _ _ _ _ _ _ _ _ => rcases b with ⟨c, _ | n⟩ <;> exact Or.inl hb
  | @repay n _ _ => cases n <;> exact Or.inl hb
  | @attach c k' _ hp hs =>
      change ((S.world.updateCache k' _).cache k).binding = some binding at hb
      rw [World.cache_updateCache] at hb
      split at hb
      · cases hb
        exact Or.inr ⟨World.known_of_isSome_store? hs, hp, rfl⟩
      · exact Or.inl hb
  | @detach k' _ =>
      change ((S.world.updateCache k' _).cache k).binding = some binding at hb
      rw [World.cache_updateCache] at hb
      split at hb
      · exact nomatch hb
      · exact Or.inl hb
  | @connect q w chain metadata _ hw =>
      change (w.cache k).binding = some binding at hb
      by_cases hk : S.world.caches.Known k
      · rw [(hw.caches_known k hk).2] at hb
        exact Or.inl hb
      · rw [hw.caches_new k hk] at hb
        exact nomatch hb
  | _ => exact Or.inl hb

theorem Turn.rebound (h : Turn S S') {k : CacheId} {binding : Binding}
    (hb : (S'.world.cache k).binding = some binding) : Rebound S k binding := by
  cases h with
  | step h => exact h.rebound hb
  | @found config sources w listeners hw =>
      change (w.cache k).binding = some binding at hb
      by_cases hk : S.world.caches.Known k
      · rw [(hw.caches_known k hk).2] at hb
        exact Or.inl hb
      · rw [hw.caches_new k hk] at hb
        exact nomatch hb
  | @count q _ hn _ =>
      rw [S.world.startCounting_of_none hn] at hb
      exact Or.inl hb
  | _ => exact Or.inl hb

theorem OwnTurn.rebound (h : OwnTurn Fits S S') {k : CacheId} {binding : Binding}
    (hb : (S'.world.cache k).binding = some binding) : Rebound S k binding := by
  cases h with
  | turn h => exact h.rebound hb
  | @adopt policy fallible _ =>
      change ((S.world.caches.register { policy, fallible }).get k).binding = some binding at hb
      rw [Registry.get_register] at hb
      split at hb
      · exact nomatch hb
      · exact Or.inl hb
  | _ => exact Or.inl hb

/-- What becomes of the counter of a pool. -/
inductive Recounted (S S' : Scene) (q : PoolId) : Prop
  | same (hn : (S'.world.pool q).counter? = (S.world.pool q).counter?)
  | counted (ho : (S.world.pool q).closed = false) (hn : (S.world.pool q).counter? = none)
      (hn' : (S'.world.pool q).counter? = some S.world.counters.next)
      (hk : S'.world.counters.Known S.world.counters.next)
  | uncounted (hc : (S.world.pool q).closed = true) (hn' : (S'.world.pool q).counter? = none)

theorem Turn.recounted (h : Turn S S') (q : PoolId) : Recounted S S' q := by
  cases h with
  | step h =>
      have hb : (S'.world.pool q).body.counter? = (S.world.pool q).body.counter? :=
        congrArg Pool.counter? (h.pool_body q)
      exact .same hb
  | @found config sources w listeners _ =>
      refine .same ?_
      show ((S.world.pools.register { config, sources, listeners }).get q).counter? = _
      rw [Registry.get_register]
      split
      · next hq =>
          rw [hq, World.pool, Registry.get_of_not_known (Registry.not_known_next _)]
          rfl
      · rfl
  | @count p ho hn _ =>
      have hw := S.world.startCounting_of_none hn
      by_cases hq : p = q
      · subst hq
        refine .counted ho hn ?_ ?_
        · show ((S.world.startCounting p).pool p).counter? = _
          rw [hw, World.pool_updatePool, if_pos ⟨rfl, S.world.known_of_pool_open ho⟩]
          exact Attributes.get?_insert_self _ _ _
        · show (S.world.startCounting p).counters.Known _
          rw [hw]
          exact (Registry.known_register _ _ _).mpr (Or.inr rfl)
      · refine .same ?_
        show ((S.world.startCounting p).pool q).counter? = _
        rw [hw, World.pool_updatePool, if_neg fun h => hq h.1]
        rfl
  | close p total =>
      exact .same (S.world.pool_updatePool_congr p (fun pool =>
        { pool with closed := true, idle := [], total := total pool }) Pool.counter?
        (fun _ => rfl) q)
  | @uncount p hc =>
      by_cases hq : p = q ∧ S.world.pools.Known q
      · obtain ⟨rfl, hk⟩ := hq
        refine .uncounted hc ?_
        show ((S.world.stopCounting p).pool p).counter? = none
        rw [World.stopCounting, World.pool_updatePool, if_pos ⟨rfl, hk⟩]
        exact (Attributes.get?_erase _ _ _).trans (if_pos rfl)
      · refine .same ?_
        show ((S.world.stopCounting p).pool q).counter? = _
        rw [World.stopCounting, World.pool_updatePool, if_neg hq]

theorem OwnTurn.recounted (h : OwnTurn Fits S S') (q : PoolId) : Recounted S S' q := by
  cases h with
  | turn h => exact h.recounted q
  | _ => exact .same rfl

theorem Turn.counter_known (h : Turn S S') {m : CounterId} (hm : S.world.counters.Known m) :
    S'.world.counters.Known m := by
  cases h with
  | step h =>
      cases h with
      | book hw => rw [hw.counters]; exact hm
      | @hit _ _ _ _ b _ _ _ _ _ _ _ _ =>
          rcases b with ⟨c, _ | n⟩
          · exact hm
          · exact (Registry.known_modify _ _ _ _).mpr hm
      | @repay n _ _ =>
          cases n with
          | none => exact hm
          | some n => exact (Registry.known_modify _ _ _ _).mpr hm
      | park _ _ _ _ _ _ _ => exact (Registry.known_modify _ _ _ _).mpr hm
      | _ => exact hm
  | @count q _ hn _ =>
      rw [S.world.startCounting_of_none hn]
      exact (Registry.known_register _ _ _).mpr (Or.inl hm)
  | _ => exact hm

theorem OwnTurn.counter_known (h : OwnTurn Fits S S') {m : CounterId}
    (hm : S.world.counters.Known m) : S'.world.counters.Known m := by
  cases h with
  | turn h => exact h.counter_known hm
  | offer _ _ _ _ _ => exact (Registry.known_modify _ _ _ _).mpr hm
  | _ => exact hm

/-- What stays of a pool for good: its configuration, and that it is closed. -/
theorem Turn.pool_kept (h : Turn S S') {q : PoolId} (hq : S.world.pools.Known q) :
    (S'.world.pool q).config = (S.world.pool q).config
      ∧ ((S.world.pool q).closed = true → (S'.world.pool q).closed = true) := by
  cases h with
  | step h =>
      have hb := h.pool_body q
      have hconfig : (S'.world.pool q).body.config = (S.world.pool q).body.config :=
        congrArg Pool.config hb
      have hclosed : (S'.world.pool q).body.closed = (S.world.pool q).body.closed :=
        congrArg Pool.closed hb
      exact ⟨hconfig, hclosed.trans⟩
  | @found config sources w listeners _ =>
      have hpool : (S.world.pools.register { config, sources, listeners }).get q
          = S.world.pool q := Registry.get_register_of_known _ hq
      exact ⟨congrArg Pool.config hpool, (congrArg Pool.closed hpool).trans⟩
  | @count p _ _ _ =>
      exact ⟨S.world.pool_startCounting_congr p Pool.config (fun _ _ => rfl) q,
        (S.world.pool_startCounting_congr p Pool.closed (fun _ _ => rfl) q).trans⟩
  | close p total =>
      refine ⟨S.world.pool_updatePool_congr p (fun pool =>
        { pool with closed := true, idle := [], total := total pool }) Pool.config
        (fun _ => rfl) q, fun hc => ?_⟩
      rw [World.pool_updatePool]
      split
      · rfl
      · exact hc
  | @uncount p _ =>
      exact ⟨S.world.pool_stopCounting_congr p Pool.config (fun _ _ => rfl) q,
        (S.world.pool_stopCounting_congr p Pool.closed (fun _ _ => rfl) q).trans⟩

theorem OwnTurn.pool_kept (h : OwnTurn Fits S S') {q : PoolId} (hq : S.world.pools.Known q) :
    (S'.world.pool q).config = (S.world.pool q).config
      ∧ ((S.world.pool q).closed = true → (S'.world.pool q).closed = true) := by
  cases h with
  | turn h => exact h.pool_kept hq
  | _ => exact ⟨rfl, id⟩

/-! ## What a counter serves -/

theorem OwnTurn.numbered (h : OwnTurn Fits S S') (hS : Numbered S) : Numbered S' where
  pools {q m} hm := by
    cases h.recounted q with
    | same hn => exact h.counter_known (hS.pools (hn.symm.trans hm))
    | counted _ _ hn' hk =>
        rw [hn'] at hm
        cases hm
        exact hk
    | uncounted _ hn' =>
        rw [hn'] at hm
        exact nomatch hm
  caches {k binding m} hb hm := by
    rcases h.rebound hb with hb | ⟨_, _, hc⟩
    · exact h.counter_known (hS.caches hb hm)
    · exact h.counter_known (hS.pools (hc.symm.trans hm))

/-- **A counter goes on serving its pool.** -/
theorem OwnTurn.serves (h : OwnTurn Fits S S') (hS : S.Wired) (hs : Serves S p n) :
    Serves S' p n := by
  have hlater := (h.later_and_wired hS).1
  obtain ⟨-, hclosed⟩ := h.pool_kept hs.pool
  -- an open pool that is served has its counter
  have hopen : (S.world.pool p).closed = false → (S.world.pool p).counter? = some n := fun ho =>
    hs.own.resolve_right fun h => by rw [ho] at h; exact nomatch h.1
  refine ⟨hlater.pools p hs.pool, h.counter_known hs.counter, ?_, fun q hq => ?_,
    fun {k binding} hb => ?_⟩
  · cases h.recounted p with
    | same hn => exact hs.own.imp hn.trans fun h => ⟨hclosed h.1, hn.trans h.2⟩
    | counted ho hn _ _ =>
        rw [hopen ho] at hn
        exact nomatch hn
    | uncounted hc hn' => exact Or.inr ⟨hclosed hc, hn'⟩
  · cases h.recounted q with
    | same hn => exact hs.other q (hn.symm.trans hq)
    | counted _ _ hn' _ =>
        rw [hn'] at hq
        exact absurd (Option.some.inj hq) (Registry.next_ne hs.counter)
    | uncounted _ hn' =>
        rw [hn'] at hq
        exact nomatch hq
  · rcases h.rebound hb with hb | ⟨hk, ho, hc⟩
    · have hk : S.world.connections.Known binding.connection :=
        World.known_of_isSome_store? (hS.bound hb).1
      rw [Connection.pool_of_frame (hlater.connections _ hk).2]
      exact hs.caches hb
    · rw [Connection.pool_of_frame (hlater.connections _ hk).2, hc]
      exact ⟨fun hp => by rw [hp] at ho ⊢; exact hopen ho, hs.other _⟩

/-- **The count stays exact.** -/
theorem OwnTurn.exact (h : OwnTurn Fits S S') (hS : S.Wired) (hs : Serves S p n)
    (he : Exact S p n) : Exact S' p n := by
  unfold Exact at he ⊢
  cases h.flow hS hs with
  | kept hn hp => omega
  | taken _ _ hn hp => omega
  | released hn hp => omega

/-- The caches that may be attached to connections of a pool have fitting policies. -/
structure Fitted (Fits : CachePolicy → Prop) (S : Scene) (p : PoolId) : Prop where
  definitions : ∀ definition ∈ (S.world.pool p).config.interceptors, ∀ fallible,
    definition.role = .cache fallible → Fits (.ofProperties definition.properties)
  policies : ∀ k, Eligible S p k → Fits (S.world.cache k).policy

theorem OwnTurn.fitted (h : OwnTurn Fits S S') (hS : S.Wired) (hp : S.world.pools.Known p)
    (hf : Fitted Fits S p) : Fitted Fits S' p := by
  have hlater := (h.later_and_wired hS).1
  have hconfig := (h.pool_kept hp).1
  refine ⟨by rw [hconfig]; exact hf.definitions, fun k hk => ?_⟩
  -- a cache that was eligible before keeps its policy
  have hkept : S.world.caches.Known k → Eligible S p k → Fits (S'.world.cache k).policy := by
    intro hk he
    rw [(hlater.caches k hk).2]
    exact hf.policies k he
  obtain hk | ⟨c, hc, hk⟩ := hk
  · rcases h.own hk with hk | hk
    · exact hkept (hS.own_known k hk) (Or.inl hk)
    · exact hk
  · rcases h.known_connection (World.known_of_mem_caches hk) with hknown | hopened
    · have hframe := (hlater.connections c hknown).2
      rw [Connection.pool_of_frame hframe] at hc
      rw [Connection.caches_of_frame hframe] at hk
      exact hkept (hS.chain_known hk) (Or.inr ⟨c, hc, hk⟩)
    · obtain ⟨w, hcaches, hw⟩ := hopened.equipped
      rw [hc] at hw
      obtain ⟨definition, hd, fallible, hr, hpolicy⟩ := hw.policy k hk
      rw [World.cache, hcaches, ← World.cache, hpolicy]
      exact hf.definitions definition hd fallible hr

/-- **Bounded admission**: no more are counted than some fitting policy allows. -/
def Bounded (Fits : CachePolicy → Prop) (S : Scene) (n : CounterId) : Prop :=
  (S.world.counter n).count = 0
    ∨ ∃ policy, Fits policy ∧ (S.world.counter n).count ≤ policy.limit

theorem OwnTurn.bounded (h : OwnTurn Fits S S') (hS : S.Wired) (hs : Serves S p n)
    (hf : Fitted Fits S p) (hb : Bounded Fits S n) : Bounded Fits S' n := by
  unfold Bounded at hb ⊢
  cases h.flow hS hs with
  | kept hn _ => rwa [hn]
  | @taken k hk hl hn _ => exact Or.inr ⟨_, hf.policies k hk, by omega⟩
  | released hn _ =>
      rw [hn]
      obtain hb | ⟨policy, hp, hb⟩ := hb
      · exact Or.inl (by omega)
      · exact Or.inr ⟨policy, hp, by omega⟩

/-- **A pool and its counter** in a scene. -/
structure Admits (Fits : CachePolicy → Prop) (p : PoolId) (n : CounterId) (S : Scene) : Prop where
  serves : Serves S p n
  exact : Exact S p n
  fitted : Fitted Fits S p
  bounded : Bounded Fits S n

theorem OwnTurn.admits (h : OwnTurn Fits S S') (hS : S.Wired) (ha : Admits Fits p n S) :
    Admits Fits p n S' where
  serves := h.serves hS ha.serves
  exact := h.exact hS ha.serves ha.exact
  fitted := h.fitted hS ha.serves.pool ha.fitted
  bounded := h.bounded hS ha.serves ha.fitted ha.bounded

end Scene

end ConnectionPool
