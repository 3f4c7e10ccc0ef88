import ConnectionPool.Proofs.Session.Handles
import ConnectionPool.Proofs.Session.Turns

/-!
# Runs of clients without caches of their own

A session is sound when a scene depicts it that is wired, traced and owned. The empty session
is sound, and every command that is not about caches of the client's own keeps it so, whatever
faults are switched on in between.
-/

set_option autoImplicit false

namespace ConnectionPool

namespace Scene

variable {S S' : Scene}

/-- **What holds of every scene** that a client without caches of its own comes to. -/
structure Sound (S : Scene) : Prop where
  wired : S.Wired
  traced : S.Traced
  owned : S.Owned
  settled : S.world.driver.Settled
  own : S.own = []

theorem Turn.sound (h : Turn S S') (hS : S.Sound) : S'.Sound where
  wired := (h.later_and_wired hS.wired).2
  traced := h.traced hS.wired hS.traced
  owned := h.owned hS.wired hS.traced hS.owned
  settled := (h.effect hS.wired).settled hS.settled
  own := h.own.trans hS.own

theorem Turns.sound (h : Turns S S') (hS : S.Sound) : S'.Sound := by
  induction h with
  | refl => exact hS
  | tail _ hturn ih => exact hturn.sound ih

/-- Nothing is out before anything has happened. -/
def nothing : Scene := { world := {} }

theorem connection_nothing {c : ConnectionId} : nothing.world.connection c = default :=
  Registry.get_of_not_known (Registry.not_known_empty c)

theorem pool_nothing {p : PoolId} : nothing.world.pool p = default :=
  Registry.get_of_not_known (Registry.not_known_empty p)

theorem cache_nothing {k : CacheId} : nothing.world.cache k = default :=
  Registry.get_of_not_known (Registry.not_known_empty k)

theorem wired_nothing : nothing.Wired where
  nodup c := by rw [connection_nothing]; exact List.nodup_nil
  apart h _ := absurd h (by rw [connection_nothing]; exact List.not_mem_nil)
  own_apart _ := List.not_mem_nil
  chain_known h := absurd h (by rw [connection_nothing]; exact List.not_mem_nil)
  own_known k h := absurd h List.not_mem_nil
  bound {k binding} h := by
    rw [cache_nothing] at h
    cases h
  drained c _ := by
    rw [World.store, connection_nothing]
    rfl
  lines_known line h := absurd h List.not_mem_nil
  lines_apart line h := absurd h List.not_mem_nil
  physical_known c h := absurd h (Registry.not_known_empty _)
  physical_inj h := absurd h (Registry.not_known_empty _)
  origin_known {id line call} h := by
    rw [nothing.world.driver.statement_of_not_known (Registry.not_known_empty id)] at h
    cases h
  idle p c h := by
    rw [pool_nothing] at h
    exact absurd h List.not_mem_nil
  pool_known c h := absurd h (Registry.not_known_empty _)
  counting p h := by
    rw [pool_nothing] at h
    cases h
  chained c h := absurd h (Registry.not_known_empty _)
  counted {k binding n} h := by
    rw [cache_nothing] at h
    cases h
  stocked c _ := by
    rw [World.store, connection_nothing]
    rfl
  hung c _ := by
    rw [connection_nothing]
    exact Or.inl rfl

theorem sound_nothing : nothing.Sound where
  wired := wired_nothing
  traced :=
    { left := fun ⟨_, h, _⟩ => absurd h List.not_mem_nil
      targets := fun _ h => absurd h (Multiset.notMem_zero _)
      loose := fun _ h => absurd h (Multiset.notMem_zero _) }
  owned :=
    { each := fun id => by
        have hk : ¬ nothing.world.driver.statements.Known id := Registry.not_known_empty id
        have hs := nothing.world.driver.statement_of_not_known hk
        refine ⟨fun h => ?_, fun _ => ⟨rfl, Nat.zero_le _⟩, ?_⟩
        · rw [hs] at h
          exact absurd h (by decide)
        · rw [if_neg fun h => hk h.1]
          rfl
      apart := fun _ h => absurd h (Multiset.notMem_zero _) }
  settled id _ := by
    rw [nothing.world.driver.statement_of_not_known (Registry.not_known_empty id)]
    rfl
  own := rfl

end Scene

namespace Session

/-- A client without caches of its own, and a scene that depicts what it has done. -/
structure Keeps (s : Session) (S : Scene) : Prop where
  depicts : Depicts s S
  sound : S.Sound
  tracked : s.tracked = Table.empty

theorem keeps_empty : Keeps empty Scene.nothing where
  depicts :=
    { world := rfl
      hands := rfl
      bare := Multiset.zero_le _
      owed := rfl
      raw := fun _ _ h => nomatch h
      caches := fun _ _ h => nomatch h
      guards := fun _ _ h => nomatch h
      shared := fun _ _ h => nomatch h }
  sound := Scene.sound_nothing
  tracked := rfl

/-- **What a command does is a sequence of turns.** -/
theorem Keeps.run {s : Session} {S : Scene} (h : Keeps s S) {command : Command}
    (hc : ∀ c, command ≠ .cache c) :
    ∃ S', Scene.Turns S S' ∧ Keeps (s.run command).1 S' := by
  have htracked := (handled_run hc h.tracked).tracked.trans h.tracked
  by_cases ht : ∃ c, command = .tracked c
  · obtain ⟨c, rfl⟩ := ht
    rw [run_tracked h.tracked]
    exact ⟨S, .refl, h⟩
  · obtain ⟨S', hturns, hd⟩ := reached_run h.depicts h.sound.wired h.sound.traced hc
      fun c hc => ht ⟨c, hc⟩
    exact ⟨S', hturns, hd, hturns.sound h.sound, htracked⟩

/-- **What any number of commands do is a sequence of turns.** -/
theorem Keeps.runAll {s : Session} {S : Scene} (h : Keeps s S) {commands : List Command}
    (hc : ∀ c, .cache c ∉ commands) :
    ∃ S', Scene.Turns S S' ∧ Keeps (s.runAll commands) S' := by
  induction commands generalizing s S with
  | nil => exact ⟨S, .refl, h⟩
  | cons command rest ih =>
      obtain ⟨S₁, hturns₁, h₁⟩ := h.run fun c hcommand =>
        hc c (hcommand ▸ List.mem_cons_self)
      obtain ⟨S₂, hturns₂, h₂⟩ := ih h₁ fun c hrest => hc c (List.mem_cons_of_mem _ hrest)
      exact ⟨S₂, hturns₁.trans hturns₂, h₂⟩

end Session

end ConnectionPool
