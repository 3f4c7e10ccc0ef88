import ConnectionPool.Proofs.Client.Views
import ConnectionPool.Proofs.Closing.Emptying
import ConnectionPool.Proofs.Session.Accounts
import ConnectionPool.Proofs.Session.Admission

/-!
# Whatever a client may come to, in whatever order stores are visited

The entries of a store are visited in no particular order when the store is drained.
`Session.Reaches` therefore lets a client without caches of its own do any commands, and lets the
entries of any store be put into another order at any time in between: what is proved of every
session that is reached in this way holds for every order in which a drain visits what is parked.

All that holds of such a client is gathered in `Session.InOrder`, and `Reaches.inOrder` carries it
from the empty session to whatever is reached.
-/

set_option autoImplicit false

namespace ConnectionPool

namespace Scene

variable {S S' : Scene} {p : PoolId}

/-- A pool keeps its configuration for good. -/
theorem Turns.config (h : Turns S S') (hS : S.Wired) (hp : S.world.pools.Known p) :
    (S'.world.pool p).config = (S.world.pool p).config := by
  induction h with
  | refl => rfl
  | tail hturns hturn ih =>
      have hknown := (Turns.later_and_wired hturns hS).1.pools p hp
      exact (hturn.pool_kept hknown).1.trans ih

/-- What a counter serves and counts depends on the world and on what is owed only. -/
theorem Admits.congr {n : CounterId} (h : Admits (fun _ => True) p n S)
    (hw : S'.world = S.world) (ho : S'.owed = S.owed) : Admits (fun _ => True) p n S' := by
  obtain ⟨w, hands, loose, owed, lines, own⟩ := S
  obtain ⟨w', hands', loose', owed', lines', own'⟩ := S'
  obtain rfl : w' = w := hw
  obtain rfl : owed' = owed := ho
  exact ⟨{ h.serves with }, h.exact, ⟨fun _ _ _ _ => trivial, fun _ _ => trivial⟩, h.bounded⟩

theorem inOrder_nothing : nothing.InOrder where
  sound := sound_nothing
  sourced := sourced_nothing
  stocked := stocked_nothing
  hung _ h := absurd h List.not_mem_nil

end Scene

/-- A pool that was started has the configuration that it was started with. -/
theorem World.config_startPool {w w' : World} {config : PoolConfig} {p : PoolId}
    (h : w.startPool config = (w', .ok p)) :
    w'.pools.Known p ∧ (w'.pool p).config = config := by
  obtain ⟨error, hstart⟩ | ⟨sources, hstart⟩ := w.startPool_cases config <;> rw [hstart] at h
  · exact nomatch h
  · obtain ⟨rfl, hp⟩ := Prod.mk.inj h
    obtain rfl := Except.ok.inj hp
    have htold := unseen_tellListeners (w.founded config sources) w.pools.next .poolStarted
    constructor
    · exact (Registry.known_congr htold.pools_size _).mpr
        ((Registry.known_register _ _ _).mpr (Or.inr rfl))
    · rw [htold.readPool Pool.config fun _ => rfl, World.pool_founded_next]

namespace Session

open Scene (Turns)

variable {s t : Session} {S : Scene} {p : PoolId}

/-- **What a client without caches of its own may come to** from a session, by commands between
which the entries of stores change their order. -/
inductive Reaches (s : Session) : Session → Prop
  | refl : Reaches s s
  | run {t : Session} (h : Reaches s t) {command : Command} (hc : ∀ c, command ≠ .cache c) :
      Reaches s (t.run command).1
  | reorder {t : Session} (h : Reaches s t) {c : ConnectionId}
      {entries : Table fun _ : CacheKey => Tracked}
      (hs : ((t.world.connection c).store?).isSome = true)
      (he : entries.bag = (t.world.store c).entries.bag) :
      Reaches s (t.inWorld (t.world.setStore c { t.world.store c with entries }))

theorem Reaches.runAll {commands : List Command} (hc : ∀ c, .cache c ∉ commands)
    (h : Reaches s t) : Reaches s (t.runAll commands) := by
  induction commands generalizing t with
  | nil => exact h
  | cons command rest ih =>
      have hne : ∀ c, command ≠ .cache c := fun c he => hc c (he ▸ List.mem_cons_self)
      exact ih (fun c hm => hc c (List.mem_cons_of_mem _ hm)) (h.run hne)

/-- **A client without caches of its own has everything in order**: a scene depicts what it has
done, and the books of all pools are balanced. -/
structure InOrder (s : Session) (S : Scene) : Prop extends Keeps s S where
  scene : S.InOrder
  accounted : s.Accounted

theorem inOrder_empty : empty.InOrder Scene.nothing where
  toKeeps := keeps_empty
  scene := Scene.inOrder_nothing
  accounted := accounted_empty

theorem InOrder.run (h : s.InOrder S) {command : Command} (hc : ∀ c, command ≠ .cache c) :
    ∃ S', Turns S S' ∧ (s.run command).1.InOrder S' := by
  obtain ⟨S', hturns, hkeeps⟩ := h.toKeeps.run hc
  exact ⟨S', hturns, hkeeps, hturns.inOrder h.scene, (h.accounted.run command).accounted⟩

/-- The order of the entries of a store is of no importance. -/
theorem InOrder.reorder (h : s.InOrder S) (c : ConnectionId)
    {entries : Table fun _ : CacheKey => Tracked}
    (he : entries.bag = (s.world.store c).entries.bag) :
    ∃ S', Turns S S'
      ∧ (s.inWorld (s.world.setStore c { s.world.store c with entries })).InOrder S' := by
  have hworld := h.depicts.world
  have hturns : Turns S (S.inWorld (s.world.setStore c { s.world.store c with entries })) := by
    rw [← hworld]
    exact .single (.step (.tally c (he.trans (by rw [hworld])) rfl))
  have hstill := World.Deed.store s.world c { s.world.store c with entries }
  exact ⟨_, hturns, ⟨h.depicts.inWorld h.sound.wired hturns, hturns.sound h.sound, h.tracked⟩,
    hturns.inOrder h.scene, (h.accounted.still (still_inWorld hstill.deeds.still)).accounted⟩

/-- **Everything stays in order**, whatever a client does and however stores are visited. -/
theorem Reaches.inOrder (hr : Reaches s t) (h : s.InOrder S) :
    ∃ T, Turns S T ∧ t.InOrder T := by
  induction hr with
  | refl => exact ⟨S, .refl, h⟩
  | run _ hc ih =>
      obtain ⟨T, hturns, hT⟩ := ih
      obtain ⟨T', hturns', hT'⟩ := hT.run hc
      exact ⟨T', Scene.Turns.trans hturns hturns', hT'⟩
  | reorder _ _ he ih =>
      obtain ⟨T, hturns, hT⟩ := ih
      obtain ⟨T', hturns', hT'⟩ := hT.reorder _ he
      exact ⟨T', Scene.Turns.trans hturns hturns', hT'⟩

/-! ## A pool with caches -/

/-- **A pool with a cache and its counter**, as a scene shows them. -/
structure Counting (p : PoolId) (n : CounterId) (S : Scene) : Prop where
  known : S.world.pools.Known p
  caching : (S.world.pool p).config.Caching
  admits : Scene.Admits (fun _ => True) p n S

theorem Counting.turns {S' : Scene} {n : CounterId} (h : Counting p n S) (hS : S.Wired)
    (hturns : Turns S S') : Counting p n S' where
  known := (Scene.Turns.later_and_wired hturns hS).1.pools p h.known
  caching := by
    rw [hturns.config hS h.known]
    exact h.caching
  admits := hturns.own.admits hS h.admits

/-- **A pool that was started with a cache has a counter.** -/
theorem InOrder.start (h : s.InOrder S) (hS : Turns Scene.nothing S) {save : Name}
    {request : PoolRequest} {config : PoolConfig} (hfree : s.pools.get? save = none)
    (hread : request.read = .ok config) (hcaching : config.Caching)
    (hp : (s.run (.pool (.start save request))).1.pools.get? save = some p) :
    ∃ S' n, (s.run (.pool (.start save request))).1.InOrder S' ∧ Turns Scene.nothing S'
      ∧ ((s.run (.pool (.start save request))).1.world.pool p).counter? = some n
      ∧ Counting p n S' := by
  obtain ⟨w, hstart, hrun⟩ := run_start hfree hread hp
  obtain ⟨hknown, hconfig⟩ := World.config_startPool hstart
  have hfollows : Follows (fun _ => True) s S :=
    ⟨h.depicts, (Scene.Turns.own hS).regular Scene.regular_nothing⟩
  obtain ⟨S₁, n, h₁, hcounted⟩ :=
    hfollows.start hfree hread hcaching (fun _ _ _ _ => trivial) hp
  have hcommand : ∀ c, Command.pool (.start save request) ≠ .cache c := fun _ => nofun
  obtain ⟨S', hturns, h'⟩ := h.run hcommand
  have hworld : (s.run (.pool (.start save request))).1.world = w := by rw [hrun]; rfl
  have hsame : S₁.world = S'.world := h₁.depicts.world.trans h'.depicts.world.symm
  have hw : S'.world = w := h'.depicts.world.trans hworld
  refine ⟨S', n, h', Scene.Turns.trans hS hturns, ?_, ?_, ?_, ?_⟩
  · rw [← h₁.depicts.world]
    exact hcounted.counter
  · rw [hw]
    exact hknown
  · rw [hw, hconfig]
    exact hcaching
  · exact hcounted.admits.congr hsame.symm (h'.depicts.owed.trans h₁.depicts.owed.symm)

end Session

end ConnectionPool
