import ConnectionPool.Proofs.Scene.Admission

/-!
# Every counter is one pool's

A counter counts for a pool if the pool has it, or if a cache of one of the connections of the pool
counts with it (`World.CountsFor`), which may be so when the pool has been closed and has none any
more. Pools never share a counter (`Scene.Allotted`): a turn gives a pool a counter that is new, and
attaches a cache only to the connection of its chain, with the counter of that pool.
-/

set_option autoImplicit false

namespace ConnectionPool

/-- **A counter counts for a pool**: the pool has it, or a cache of one of its connections. -/
def World.CountsFor (w : World) (n : CounterId) (q : PoolId) : Prop :=
  (w.pool q).counter? = some n
    ∨ ∃ c k binding, (w.connection c).pool = q ∧ k ∈ (w.connection c).caches
      ∧ (w.cache k).binding = some binding ∧ binding.counter = some n

namespace Scene

variable {S S' : Scene} {q q' : PoolId} {n : CounterId}

/-- **Counters are allotted** to pools: there is every counter that is referred to, and it counts
for one pool only. -/
structure Allotted (S : Scene) : Prop where
  numbered : S.Numbered
  apart : ∀ {q q' n}, S.world.CountsFor n q → S.world.CountsFor n q' → q = q'

theorem Numbered.known (h : S.Numbered) (hn : S.world.CountsFor n q) :
    S.world.counters.Known n := by
  rcases hn with hn | ⟨c, k, binding, -, -, hb, hn⟩
  · exact h.pools hn
  · exact h.caches hb hn

/-- A turn changes the counter of one pool at most. -/
theorem Turn.recounts_one (h : Turn S S') :
    ∃ p, ∀ q, q ≠ p → (S'.world.pool q).counter? = (S.world.pool q).counter? := by
  cases h with
  | step h =>
      refine ⟨S.world.pools.next, fun q _ => ?_⟩
      show (S'.world.pool q).body.counter? = (S.world.pool q).body.counter?
      rw [h.pool_body]
  | @found config sources w listeners _ =>
      refine ⟨S.world.pools.next, fun q hq => ?_⟩
      show ((S.world.pools.register { config, sources, listeners }).get q).counter? = _
      rw [Registry.get_register, if_neg hq]
      rfl
  | @count p _ hn _ =>
      refine ⟨p, fun q hq => ?_⟩
      show ((S.world.startCounting p).pool q).counter? = _
      rw [S.world.startCounting_of_none hn, World.pool_updatePool, if_neg fun h => hq h.1.symm]
      rfl
  | close p total =>
      exact ⟨p, fun q _ => S.world.pool_updatePool_congr p (fun pool =>
        { pool with closed := true, idle := [], total := total pool }) Pool.counter?
        (fun _ => rfl) q⟩
  | @uncount p _ =>
      refine ⟨p, fun q hq => ?_⟩
      show ((S.world.stopCounting p).pool q).counter? = _
      rw [World.stopCounting, World.pool_updatePool, if_neg fun h => hq h.1.symm]

/-- **What counts for a pool** after a turn did so before, or is a new counter that the pool has
got. -/
theorem Turn.countsFor (h : Turn S S') (hS : S.Wired) (hown : S.own = [])
    (hc : S'.world.CountsFor n q) : S.world.CountsFor n q
      ∨ (¬ S.world.counters.Known n ∧ (S'.world.pool q).counter? = some n) := by
  obtain ⟨hlater, hS'⟩ := h.later_and_wired hS
  rcases hc with hn | ⟨c, k, binding, hpool, hk, hb, hn⟩
  · cases h.recounted q with
    | same hsame => exact Or.inl (Or.inl (hsame.symm.trans hn))
    | counted _ _ hnew _ =>
        obtain rfl := Option.some.inj (hnew.symm.trans hn)
        exact Or.inr ⟨S.world.counters.not_known_next, hn⟩
    | uncounted _ hnone => exact absurd (hnone.symm.trans hn) (Option.some_ne_none n).symm
  · -- the cache is attached to the connection that it is a link of
    obtain rfl := hS'.binding_connection hk hb
    left
    rcases h.rebound hb with hb | ⟨hknown, -, hcounter⟩
    · have hk' : k ∈ (S.world.connection binding.connection).caches := by
        refine (hS.bound hb).2.resolve_left fun ho => ?_
        rw [hown] at ho
        exact List.not_mem_nil ho
      have hframe := (hlater.connections _ (World.known_of_mem_caches hk')).2
      exact Or.inr ⟨binding.connection, k, binding,
        (Connection.pool_of_frame hframe).symm.trans hpool, hk', hb, hn⟩
    · have hframe := (hlater.connections _ hknown).2
      rw [← hpool, Connection.pool_of_frame hframe]
      exact Or.inl (hcounter.symm.trans hn)

/-- **Counters stay allotted.** -/
theorem Turn.allotted (h : Turn S S') (hS : S.Wired) (hown : S.own = []) (ha : S.Allotted) :
    S'.Allotted where
  numbered := by
    have hown : OwnTurn (fun _ => True) S S' := .turn h
    exact hown.numbered ha.numbered
  apart {q q' n} hq hq' := by
    rcases h.countsFor hS hown hq with hq | ⟨hnew, hq⟩ <;>
      rcases h.countsFor hS hown hq' with hq' | ⟨hnew', hq'⟩
    · exact ha.apart hq hq'
    · exact absurd (ha.numbered.known hq) hnew'
    · exact absurd (ha.numbered.known hq') hnew
    · -- both pools have just got the counter, and only one pool can have
      obtain ⟨p, hp⟩ := h.recounts_one
      have hgot : ∀ {r}, (S'.world.pool r).counter? = some n → r = p := by
        intro r hr
        by_contra hne
        exact hnew (ha.numbered.pools ((hp r hne).symm.trans hr))
      exact (hgot hq).trans (hgot hq').symm

end Scene

end ConnectionPool
